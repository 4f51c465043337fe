import CallRegistry.Store.Table
import CallRegistry.CallRecord.Item

/-!
# Requests to the table service

The four requests that the store sends.  A read is strongly consistent, a query
of the region index is not.  A put carries the condition that the group has no
item, a delete the condition that the item still holds the given call.
-/

namespace CallRegistry

inductive Request where
  | getItem (group : String)
  /-- Stores the record unless its group has an item. -/
  | putItem (record : CallRecord)
  /-- Erases the item of a group if it holds the given call. -/
  | deleteItem (group call : String)
  /-- A page of the items of a region, after the given key if there is one. -/
  | query (region : String) (after : Option Datum)

namespace Request

def method : Request → String
  | getItem _ => "get_item"
  | putItem _ => "put_item"
  | deleteItem .. => "delete_item"
  | query .. => "query"

def key (group : String) : Datum :=
  .map [(CallRecord.Field.groupId.attributeName, Attribute.ofText group)]

/-- The value that conditions refer to. -/
def conditionValue (s : String) : Datum :=
  .map [(":value", Attribute.ofText s)]

def parameters (config : TableConfig) : Request → Form
  | getItem group =>
    [("TableName", config.table),
      ("Key", key group),
      ("ConsistentRead", .bool true)]
  | putItem record =>
    [("TableName", config.table),
      ("Item", record.toItem),
      ("ConditionExpression", .text ("attribute_not_exists(" ++
        CallRecord.Field.groupId.attributeName ++ ")"))]
  | deleteItem group call =>
    [("TableName", config.table),
      ("Key", key group),
      ("ConditionExpression", .text (
        CallRecord.Field.callId.attributeName ++ " = :value")),
      ("ExpressionAttributeValues", conditionValue call)]
  | query region after =>
    [("TableName", config.table),
      ("IndexName", config.regionIndex),
      ("KeyConditionExpression", .text "#region = :value"),
      ("ExpressionAttributeNames", .map [("#region",
        .text CallRecord.Field.backendRegion.attributeName)]),
      ("ExpressionAttributeValues", conditionValue region),
      ("ConsistentRead", .bool false),
      ("Select", .text "ALL_ATTRIBUTES")] ++
    after.toList.map fun key => ("ExclusiveStartKey", key)

end Request

end CallRegistry
