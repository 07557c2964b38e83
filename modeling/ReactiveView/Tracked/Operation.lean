/-
**The operations on tracked values, as data.**

What code outside the library may do to a store is one of these operations. An operation is carried
out by the function of the same name, and what it gives back is a reply.

* `Operation.run` — carries an operation out.
* `Operation.isMutation` — the operations that write to a node.
-/

import ReactiveView.Tracked.List
import ReactiveView.Tracked.Make
import ReactiveView.Tracked.Map

namespace ReactiveView

/-- Something done to a tracked value, or a value made. -/
inductive Operation where
  | newList (items : List Value)
  | newMap (entries : OrderedMap String Value)
  | newRecord (name : String) (fields : OrderedMap String Value)
  | newJson (json : Json)
  | listItem (list : Ref) (index : Int)
  | listFirst (list : Ref)
  | listLast (list : Ref)
  | listIterate (list : Ref)
  | listSlice (list : Ref) (start : Nat) (stop : Option Nat)
  | listFilter (list : Ref) (keep : Value → Bool)
  | listFind (list : Ref) (wanted : Value → Bool)
  | listDerive (list : Ref) (items : List Value)
  | listReversed (list : Ref)
  | listSorted (list : Ref)
  | listPush (list : Ref) (value : Value)
  | listPop (list : Ref)
  | listInsert (list : Ref) (index : Nat) (value : Value)
  | listRemove (list : Ref) (index : Nat)
  | listSet (list : Ref) (index : Nat) (value : Value)
  | listClear (list : Ref)
  | listTruncate (list : Ref) (length : Nat)
  | listExtend (list : Ref) (values : List Value)
  | listConcat (list other : Ref)
  | listRetain (list : Ref) (keep : Value → Bool)
  | listSort (list : Ref)
  | listSortBy (list : Ref) (isLess : Value → Value → Bool)
  | listReverse (list : Ref)
  | mapGet (map : Ref) (key : String)
  | mapIterate (map : Ref)
  | mapSelect (map : Ref) (keep : String → Value → Bool)
  | mapInsert (map : Ref) (key : String) (value : Value)
  | mapRemove (map : Ref) (key : String)
  | mapClear (map : Ref)
  | mapExtend (map : Ref) (pairs : List (String × Value))
  | mapMerge (map other : Ref)
  | mapRetain (map : Ref) (keep : String → Value → Bool)
  | mapSortKeys (map : Ref)
  | recordGet (record : Ref) (field : String)
  | recordSet (record : Ref) (field : String) (value : Value)
  | recordToMap (record : Ref)

/-- What an operation gives back. -/
inductive Reply where
  | done
  | value (value : Value)
  | option (value : Option Value)
  | values (values : List Value)
  | entries (entries : List (String × Value))
  | refused (error : Error)

namespace Operation

/-- A result and the store after it, with the result as a reply. -/
private def replying {α : Type} (reply : α → Reply) (result : α × Store) : Reply × Store :=
  (reply result.1, result.2)

/-- The reply of an operation that only changes the store. -/
private def finished (store : Store) : Reply × Store := (.done, store)

/-- Carries an operation out. -/
def run (operation : Operation) (store : Store) : Reply × Store :=
  match operation with
  | newList items => replying .value (store.newList items)
  | newMap entries => replying .value (store.newMap entries)
  | newRecord name fields => replying .value (store.newRecord name fields)
  | newJson json => replying .value (Value.ofJson store json)
  | listItem list index => replying .option (TrackedList.item list index store)
  | listFirst list => replying .option (TrackedList.first list store)
  | listLast list => replying .option (TrackedList.last list store)
  | listIterate list => replying .values (TrackedList.iterate list store)
  | listSlice list start stop =>
    replying (fun ref => .value (.list ref)) (TrackedList.slice list start stop store)
  | listFilter list keep =>
    replying (fun ref => .value (.list ref)) (TrackedList.filter list keep store)
  | listFind list wanted => replying .option (TrackedList.find list wanted store)
  | listDerive list items =>
    replying (fun ref => .value (.list ref)) (TrackedList.derive list items store)
  | listReversed list => replying (fun ref => .value (.list ref)) (TrackedList.reversed list store)
  | listSorted list => replying (fun ref => .value (.list ref)) (TrackedList.sorted list store)
  | listPush list value => finished (TrackedList.push list value store)
  | listPop list => replying .option (TrackedList.pop list store)
  | listInsert list index value => finished (TrackedList.insert list index value store)
  | listRemove list index => replying .option (TrackedList.remove list index store)
  | listSet list index value => replying .option (TrackedList.set list index value store)
  | listClear list => finished (TrackedList.clear list store)
  | listTruncate list length => finished (TrackedList.truncate list length store)
  | listExtend list values => finished (TrackedList.extend list values store)
  | listConcat list other => finished (TrackedList.concat list other store)
  | listRetain list keep => finished (TrackedList.retain list keep store)
  | listSort list => finished (TrackedList.sort list store)
  | listSortBy list isLess => finished (TrackedList.sortBy list isLess store)
  | listReverse list => finished (TrackedList.reverse list store)
  | mapGet map key => replying .option (TrackedMap.get map key store)
  | mapIterate map => replying .entries (TrackedMap.iterate map store)
  | mapSelect map keep => replying (fun ref => .value (.map ref)) (TrackedMap.select map keep store)
  | mapInsert map key value => replying .option (TrackedMap.insert map key value store)
  | mapRemove map key => replying .option (TrackedMap.remove map key store)
  | mapClear map => finished (TrackedMap.clear map store)
  | mapExtend map pairs => finished (TrackedMap.extend map pairs store)
  | mapMerge map other => finished (TrackedMap.merge map other store)
  | mapRetain map keep => finished (TrackedMap.retain map keep store)
  | mapSortKeys map => finished (TrackedMap.sortKeys map store)
  | recordGet record field => replying .option (TrackedRecord.get record field store)
  | recordSet record field value =>
    match TrackedRecord.set record field value store with
    | (.ok old, store) => (.value old, store)
    | (.error error, store) => (.refused error, store)
  | recordToMap record => replying (fun ref => .value (.map ref)) (TrackedRecord.toMap record store)

/-- Whether an operation writes to a node. -/
def isMutation : Operation → Bool
  | listPush .. | listPop .. | listInsert .. | listRemove .. | listSet .. | listClear ..
  | listTruncate .. | listExtend .. | listConcat .. | listRetain .. | listSort .. | listSortBy ..
  | listReverse .. | mapInsert .. | mapRemove .. | mapClear .. | mapExtend .. | mapMerge ..
  | mapRetain .. | mapSortKeys .. | recordSet .. => true
  | _ => false

end Operation

end ReactiveView
