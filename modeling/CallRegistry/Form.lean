import CallRegistry.Datum

/-!
# Values handed in by name

A form is a list of named values, each name at most once.  `Form.Fits` is the
check made before any value is looked at: every name is known, and every name
that has no default is there.
-/

namespace CallRegistry

/-- Named values in the order they were handed in. -/
abbrev Form := List (String × Datum)

namespace Form

/-- Whether the names of a form are among `known` and cover `required`. -/
def fits (form : Form) (required known : List String) : Bool :=
  form.all (fun e => known.contains e.1) &&
  required.all (fun name => form.any (·.1 == name))

/-- The value under a name, null when there is none. -/
def value (form : Form) (name : String) : Datum :=
  (form.lookup name).getD .null

end Form

end CallRegistry
