import MyFundi.Foundation.Machine
import MyFundi.Services.KeychainWrapper

/-!
# What the keychain wrapper is for

A wrapper is a table from keys to values, each with an accessibility: a value set is there
until it is replaced or removed, a call that fails changes nothing, and an item keeps the
accessibility it was added with, so that setting it with another one fails. The wrapper
and the table allow the same calls with the same answers, whatever the system refuses.
-/

namespace MyFundi

open Foundation SecItem

namespace KeychainTable

/-- What a key stands for: its value and when it can be read. -/
structure Entry where
  value : ByteArray
  accessible : KeychainItemAccessibility

/-- The entry that an item of the keychain makes. -/
def Entry.ofItem (item : Item) : Entry where
  value := item.valueData
  accessible := item.accessible

/-- A call finds an entry if it asks for no accessibility or for that of the entry. -/
def Entry.found (accessibility : Option KeychainItemAccessibility) (entry : Entry) : Bool :=
  ∀ accessible ∈ accessibility, entry.accessible = accessible

end KeychainTable

open KeychainTable

/-- What the wrapper is for: at most one entry under every key. -/
abbrev KeychainTable := String → Option Entry

/-- The functions of the wrapper that the table answers too, with their arguments. -/
inductive KeychainCall where
  | setData (value : ByteArray) (key : String) (accessibility : Option KeychainItemAccessibility)
  | set (value key : String) (accessibility : Option KeychainItemAccessibility)
  | removeObject (key : String) (accessibility : Option KeychainItemAccessibility)
  | removeAllKeys
  | data (key : String) (accessibility : Option KeychainItemAccessibility)
  | string (key : String) (accessibility : Option KeychainItemAccessibility)
  | hasValue (key : String) (accessibility : Option KeychainItemAccessibility)
  | accessibilityOfKey (key : String)

/-- What a call answers. -/
inductive KeychainAnswer where
  | result (result : Bool)
  | data (data : Option ByteArray)
  | string (string : Option String)
  | accessibility (accessibility : Option KeychainItemAccessibility)
  deriving DecidableEq

/-- A call with its answer, and whether the system refused the first request it makes and
the update that `set` makes when there is an item already. -/
structure KeychainEvent where
  call : KeychainCall
  refused : Bool
  refusedUpdate : Bool
  answer : KeychainAnswer

namespace KeychainTable

variable (table : KeychainTable)

/-- A new key is entered with the accessibility given. A key that is there keeps the one it has,
and takes the value only if the call finds it: the source's comment, that a value which is
there is overwritten, does not hold of another accessibility. -/
def setData (refused refusedUpdate : Bool) (value : ByteArray) (key : String)
    (accessibility : Option KeychainItemAccessibility) : Bool × KeychainTable :=
  if refused then (false, table)
  else
    match table key with
    | none => (true, Function.update table key (some ⟨value, accessibility.getD .whenUnlocked⟩))
    | some entry =>
        if !refusedUpdate && entry.found accessibility then
          (true, Function.update table key (some { entry with value := value }))
        else (false, table)

/-- The entry a call finds under a key. -/
def find (refused : Bool) (key : String) (accessibility : Option KeychainItemAccessibility) :
    Option Entry :=
  if refused then none else (table key).filter (Entry.found accessibility)

/-- The entry a call finds is removed. -/
def removeObject (refused : Bool) (key : String)
    (accessibility : Option KeychainItemAccessibility) : Bool × KeychainTable :=
  match table.find refused key accessibility with
  | some _ => (true, Function.update table key none)
  | none => (false, table)

open Classical in
/-- All entries are removed, if there is any. -/
noncomputable def removeAllKeys (refused : Bool) : Bool × KeychainTable :=
  if ¬ refused ∧ ∃ key, (table key).isSome then (true, fun _ => none) else (false, table)

/-- A call on the table, with its answer. -/
noncomputable def perform (refused refusedUpdate : Bool) :
    KeychainCall → KeychainAnswer × KeychainTable
  | .setData value key accessibility =>
      (table.setData refused refusedUpdate value key accessibility).map .result id
  | .set value key accessibility =>
      (table.setData refused refusedUpdate value.toUTF8 key accessibility).map .result id
  | .removeObject key accessibility => (table.removeObject refused key accessibility).map .result id
  | .removeAllKeys => (table.removeAllKeys refused).map .result id
  | .data key accessibility => (.data ((table.find refused key accessibility).map Entry.value), table)
  | .string key accessibility => (.string (((table.find refused key accessibility).map
      Entry.value).bind String.fromUTF8?), table)
  | .hasValue key accessibility =>
      (.result (table.find refused key accessibility).isSome, table)
  | .accessibilityOfKey key =>
      (.accessibility ((table.find refused key none).map Entry.accessible), table)

/-- Calls one after the other, each with the answer the table gives. -/
noncomputable def machine : Machine KeychainTable KeychainEvent where
  enabled := fun table event =>
    (table.perform event.refused event.refusedUpdate event.call).1 = event.answer
  handle := fun table event =>
    some (table.perform event.refused event.refusedUpdate event.call).2

end KeychainTable

namespace KeychainWrapper

variable (wrapper : KeychainWrapper)

/-- A call on the keychain through the wrapper, with its answer. -/
def perform (refused refusedUpdate : Bool) (keychain : Keychain) :
    KeychainCall → KeychainAnswer × Keychain
  | .setData value key accessibility =>
      (wrapper.setData refused refusedUpdate keychain value key accessibility).map .result id
  | .set value key accessibility =>
      (wrapper.set refused refusedUpdate keychain value key accessibility).map .result id
  | .removeObject key accessibility =>
      (wrapper.removeObject refused keychain key accessibility).map .result id
  | .removeAllKeys => (wrapper.removeAllKeys refused keychain).map .result id
  | .data key accessibility => (.data (wrapper.data refused keychain key accessibility), keychain)
  | .string key accessibility =>
      (.string (wrapper.string refused keychain key accessibility), keychain)
  | .hasValue key accessibility =>
      (.result (wrapper.hasValue refused keychain key accessibility), keychain)
  | .accessibilityOfKey key =>
      (.accessibility (wrapper.accessibilityOfKey refused keychain key), keychain)

/-- Calls one after the other, each with the answer the wrapper gives. -/
def machine : Machine Keychain KeychainEvent where
  enabled := fun keychain event =>
    (wrapper.perform event.refused event.refusedUpdate keychain event.call).1 = event.answer
  handle := fun keychain event =>
    some (wrapper.perform event.refused event.refusedUpdate keychain event.call).2

/-- The primary key of the item for a key. -/
def primaryKey (key : String) : PrimaryKey where
  service := wrapper.serviceName
  account := key.toUTF8

/-- What the wrapper's items say. -/
def table (keychain : Keychain) : KeychainTable := fun key =>
  (keychain.get (wrapper.primaryKey key)).map Entry.ofItem

/-- The items of the wrapper's service are of the form it gives them. -/
def Own (keychain : Keychain) : Prop :=
  ∀ item ∈ keychain.items, item.service = wrapper.serviceName →
    ∃ key : String, item.account = key.toUTF8 ∧ item.generic = key.toUTF8

variable {wrapper} {keychain : Keychain} {key : String}
  {accessibility : Option KeychainItemAccessibility}

/-- Different keys have different items. -/
theorem primaryKey_inj {other : String} :
    wrapper.primaryKey key = wrapper.primaryKey other ↔ key = other := by
  rw [primaryKey, primaryKey, PrimaryKey.mk.injEq, String.toUTF8_eq_toByteArray,
    String.toUTF8_eq_toByteArray, String.toByteArray_inj]
  exact and_iff_right rfl

/-- A query for a key only matches the wrapper's item of that key. -/
theorem primaryKey_of_matching {item : Item}
    (fits : (wrapper.setupKeychainQueryDictionary key accessibility).matching item = true) :
    item.primaryKey = wrapper.primaryKey key := by
  obtain ⟨service, account, _⟩ := of_decide_eq_true fits
  rw [Item.primaryKey, primaryKey, service, account _ rfl]
  rfl

/-- The wrapper's item of a key matches a query for the key if its accessibility does. -/
theorem Own.matching (own : wrapper.Own keychain) {item : Item}
    (found : keychain.get (wrapper.primaryKey key) = some item) :
    (wrapper.setupKeychainQueryDictionary key accessibility).matching item =
      (Entry.ofItem item).found accessibility := by
  obtain ⟨member, named⟩ := Keyed.get_eq_some_iff.mp found
  obtain ⟨service, account⟩ := PrimaryKey.mk.inj named
  obtain ⟨stored, same, generic⟩ := own item member service
  have named : item.generic = key.toUTF8 := generic.trans (same.symm.trans account)
  simp [Query.matching, setupKeychainQueryDictionary, Entry.found, Entry.ofItem, service, account,
    named]

/-- A query for a key finds the item of the entry, if the call finds the entry. -/
theorem Own.find (own : wrapper.Own keychain) :
    (keychain.items.find? (wrapper.setupKeychainQueryDictionary key accessibility).matching).map
        Entry.ofItem =
      (wrapper.table keychain key).filter (Entry.found accessibility) := by
  rw [keychain.find_eq fun item fits => primaryKey_of_matching fits, table]
  cases found : keychain.get (wrapper.primaryKey key) with
  | none => rfl
  | some item =>
      rw [Option.filter_some, own.matching found, Option.map_some, Option.filter_some]
      split <;> rfl

/-- A query for a key matches something if the call finds the entry. -/
theorem Own.any (own : wrapper.Own keychain) :
    keychain.items.any (wrapper.setupKeychainQueryDictionary key accessibility).matching =
      ((wrapper.table keychain key).filter (Entry.found accessibility)).isSome := by
  rw [← own.find, Option.isSome_map, List.isSome_find?]

/-- Changing an item keeps what tells whether it is the wrapper's. -/
theorem Own.modify (own : wrapper.Own keychain) {change : Item → Item}
    (kept : ∀ item, (change item).primaryKey = item.primaryKey)
    (generic : ∀ item, (change item).generic = item.generic) :
    wrapper.Own (keychain.modify change kept) := by
  intro item member service
  obtain ⟨old, present, rfl⟩ := List.mem_map.mp member
  obtain ⟨sameService, sameAccount⟩ := PrimaryKey.mk.inj (kept old)
  obtain ⟨stored, account, named⟩ := own old present (sameService.symm.trans service)
  exact ⟨stored, sameAccount.trans account, (generic old).trans named⟩

/-- Removals keep the items of the service its own. -/
theorem Own.filter (own : wrapper.Own keychain) (keep : Item → Bool) :
    wrapper.Own (keychain.filter keep) :=
  fun item member => own item (List.mem_of_mem_filter member)

/-- An item the wrapper adds is its own. -/
theorem Own.insert (own : wrapper.Own keychain) (value : ByteArray)
    (fresh : (wrapper.addedItem value key accessibility).primaryKey ∉
      keychain.items.map Item.primaryKey) :
    wrapper.Own (keychain.insert (wrapper.addedItem value key accessibility) fresh) := by
  intro item member service
  rcases List.mem_append.mp member with old | new
  · exact own item old service
  · cases List.mem_singleton.mp new
    exact ⟨key, rfl, rfl⟩

/-- An item added is entered in the table. -/
theorem table_insert (value : ByteArray)
    (fresh : (wrapper.addedItem value key accessibility).primaryKey ∉
      keychain.items.map Item.primaryKey) :
    wrapper.table (keychain.insert (wrapper.addedItem value key accessibility) fresh) =
      Function.update (wrapper.table keychain) key
        (some ⟨value, accessibility.getD .whenUnlocked⟩) := by
  funext other
  rw [table, Keyed.get_insert]
  by_cases same : other = key
  · subst same
    rw [Function.update_self]
    exact congrArg _ (if_pos rfl)
  · have away : (wrapper.addedItem value key accessibility).primaryKey ≠
        wrapper.primaryKey other := fun equal => same (primaryKey_inj.mp equal).symm
    rw [Function.update_of_ne same, if_neg away]
    rfl

/-- What changing the items that match a query for a key does to the table. -/
theorem Own.table_modify (own : wrapper.Own keychain) (value : ByteArray) {entry : Entry}
    (present : wrapper.table keychain key = some entry)
    (found : entry.found accessibility = true) :
    wrapper.table (keychain.modify
        ((wrapper.setupKeychainQueryDictionary key accessibility).change value)
        (Query.primaryKey_change _ value)) =
      Function.update (wrapper.table keychain) key (some { entry with value := value }) := by
  funext other
  rw [table, Keyed.get_modify, Option.map_map]
  by_cases same : other = key
  · subst same
    obtain ⟨item, stored, rfl⟩ := Option.map_eq_some_iff.mp present
    rw [Function.update_self, stored, Option.map_some, Function.comp_apply, Query.change,
      if_pos ((own.matching stored).trans found)]
    rfl
  · rw [Function.update_of_ne same, table]
    refine Option.map_congr fun item stored => ?_
    have named := (Keyed.get_eq_some_iff.mp stored).2
    rw [Function.comp_apply, Query.change, if_neg fun fits => same (primaryKey_inj.mp
      (named.symm.trans (primaryKey_of_matching fits)))]

/-- What dropping the items that match a query for a key does to the table. -/
theorem Own.table_filter (own : wrapper.Own keychain) {entry : Entry}
    (present : wrapper.table keychain key = some entry)
    (found : entry.found accessibility = true) :
    wrapper.table (keychain.filter fun item =>
        !(wrapper.setupKeychainQueryDictionary key accessibility).matching item) =
      Function.update (wrapper.table keychain) key none := by
  funext other
  rw [table, Keyed.get_filter]
  by_cases same : other = key
  · subst same
    obtain ⟨item, stored, rfl⟩ := Option.map_eq_some_iff.mp present
    rw [Function.update_self, stored, Option.filter_some, own.matching stored, found]
    rfl
  · rw [Function.update_of_ne same, table]
    cases stored : keychain.get (wrapper.primaryKey other) with
    | none => rfl
    | some item =>
        have named := (Keyed.get_eq_some_iff.mp stored).2
        have unmatched : (wrapper.setupKeychainQueryDictionary key accessibility).matching item =
            false :=
          Bool.eq_false_iff.mpr fun fits =>
            same (primaryKey_inj.mp (named.symm.trans (primaryKey_of_matching fits)))
        rw [Option.filter_some, unmatched]
        rfl

/-- What the wrapper does, compared with what its table does: the same answer and the same
entries after it, and items of other services stay as they are. -/
structure Agrees (wrapper : KeychainWrapper) (keychain : Keychain) {Answer : Type}
    (done : Answer × Keychain) (expected : Answer × KeychainTable) : Prop where
  answer : done.1 = expected.1
  table : wrapper.table done.2 = expected.2
  own : wrapper.Own done.2
  others : ∀ item, item.service ≠ wrapper.serviceName →
    (item ∈ done.2.items ↔ item ∈ keychain.items)

/-- A call that changes nothing agrees with the table if its answer does. -/
theorem Own.unchanged (own : wrapper.Own keychain) {Answer : Type} (answer : Answer) :
    Agrees wrapper keychain (answer, keychain) (answer, wrapper.table keychain) :=
  ⟨rfl, rfl, own, fun _ _ => Iff.rfl⟩

/-- Agreement does not depend on how the answer is presented. -/
theorem Agrees.map {Answer Other : Type} {done : Answer × Keychain}
    {expected : Answer × KeychainTable} (agrees : Agrees wrapper keychain done expected)
    (change : Answer → Other) :
    Agrees wrapper keychain (done.map change id) (expected.map change id) :=
  ⟨congrArg change agrees.answer, agrees.table, agrees.own, agrees.others⟩

/-- An update agrees with the table: it takes if the call finds the entry. -/
theorem Own.update (own : wrapper.Own keychain) (refused : Bool) (value : ByteArray)
    {entry : Entry} (present : wrapper.table keychain key = some entry) :
    Agrees wrapper keychain (wrapper.update refused keychain value key accessibility)
      (if !refused && entry.found accessibility then
        (true, Function.update (wrapper.table keychain) key (some { entry with value := value }))
      else (false, wrapper.table keychain)) := by
  cases refused with
  | true => exact own.unchanged false
  | false =>
      have any : keychain.items.any
          (wrapper.setupKeychainQueryDictionary key accessibility).matching =
            entry.found accessibility := by
        rw [own.any, present, Option.filter_some]
        cases entry.found accessibility <;> rfl
      cases found : entry.found accessibility with
      | false =>
          rw [KeychainWrapper.update, update_of_not_any value (any.trans found)]
          exact own.unchanged false
      | true =>
          rw [KeychainWrapper.update, update_of_any value (any.trans found)]
          refine ⟨rfl, own.table_modify value present found,
            own.modify (Query.primaryKey_change _ value) ?_, ?_⟩
          · intro item
            rw [Query.change]
            split <;> rfl
          · intro item other
            constructor
            · intro member
              obtain ⟨old, inside, rfl⟩ := List.mem_map.mp member
              rw [Query.change] at other ⊢
              split at other
              · rename_i fits
                exact absurd (PrimaryKey.mk.inj (primaryKey_of_matching fits)).1 other
              · rw [if_neg ‹_›]
                exact inside
            · intro inside
              refine List.mem_map.mpr ⟨item, inside, if_neg fun fits => other ?_⟩
              exact (PrimaryKey.mk.inj (primaryKey_of_matching fits)).1

/-- `setData` agrees with the table, whether the key is there or not. -/
theorem Own.setData (own : wrapper.Own keychain) (refused refusedUpdate : Bool)
    (value : ByteArray) (key : String) (accessibility : Option KeychainItemAccessibility) :
    Agrees wrapper keychain
      (wrapper.setData refused refusedUpdate keychain value key accessibility)
      ((wrapper.table keychain).setData refused refusedUpdate value key accessibility) := by
  cases refused with
  | true => exact own.unchanged false
  | false =>
      have free : (wrapper.addedItem value key accessibility).primaryKey ∉
          keychain.items.map Item.primaryKey ↔ wrapper.table keychain key = none := by
        rw [table, Option.map_eq_none_iff, Keyed.get_eq_none_iff]
        rfl
      cases present : wrapper.table keychain key with
      | none =>
          have fresh := free.mpr present
          have added : wrapper.setData false refusedUpdate keychain value key accessibility =
              (true, keychain.insert (wrapper.addedItem value key accessibility) fresh) := by
            rw [KeychainWrapper.setData, add_of_fresh fresh]
          rw [added, KeychainTable.setData, present]
          refine ⟨rfl, table_insert value fresh, own.insert value fresh, fun item other => ?_⟩
          rw [Keyed.insert, List.mem_append, List.mem_singleton, or_iff_left]
          rintro rfl
          exact other rfl
      | some entry =>
          have taken : (wrapper.addedItem value key accessibility).primaryKey ∈
              keychain.items.map Item.primaryKey := by
            refine not_not.mp fun fresh => ?_
            rw [free, present] at fresh
            cases fresh
          have updated : wrapper.setData false refusedUpdate keychain value key accessibility =
              wrapper.update refusedUpdate keychain value key accessibility := by
            rw [KeychainWrapper.setData, add_of_taken taken]
          rw [updated, KeychainTable.setData, present]
          exact own.update refusedUpdate value present

/-- `removeObject` agrees with the table. -/
theorem Own.removeObject (own : wrapper.Own keychain) (refused : Bool) (key : String)
    (accessibility : Option KeychainItemAccessibility) :
    Agrees wrapper keychain (wrapper.removeObject refused keychain key accessibility)
      ((wrapper.table keychain).removeObject refused key accessibility) := by
  cases refused with
  | true => exact own.unchanged false
  | false =>
      have any : keychain.items.any
          (wrapper.setupKeychainQueryDictionary key accessibility).matching = _ := own.any
      rw [KeychainWrapper.removeObject, KeychainTable.removeObject, KeychainTable.find,
        if_neg Bool.false_ne_true]
      cases hit : (wrapper.table keychain key).filter (Entry.found accessibility) with
      | none =>
          rw [hit] at any
          rw [delete_of_not_any any]
          exact own.unchanged false
      | some entry =>
          obtain ⟨present, found⟩ := Option.filter_eq_some_iff.mp hit
          rw [hit] at any
          rw [delete_of_any any]
          refine ⟨rfl, own.table_filter present found, own.filter _, fun item other => ?_⟩
          refine List.mem_filter.trans (and_iff_left ?_)
          rw [Bool.not_eq_true', Bool.eq_false_iff]
          exact fun fits => other (PrimaryKey.mk.inj (primaryKey_of_matching fits)).1

/-- Only the service counts when all keys are meant. -/
theorem matching_allKeys (item : Item) :
    wrapper.allKeysQuery.matching item = decide (item.service = wrapper.serviceName) := by
  simp [Query.matching, allKeysQuery]

/-- The service has an item if the table has an entry. -/
theorem Own.any_allKeys (own : wrapper.Own keychain) :
    keychain.items.any wrapper.allKeysQuery.matching = true ↔
      ∃ key, (wrapper.table keychain key).isSome := by
  rw [List.any_eq_true]
  constructor
  · rintro ⟨item, member, fits⟩
    rw [matching_allKeys, decide_eq_true_eq] at fits
    obtain ⟨key, account, _⟩ := own item member fits
    have stored : keychain.get (wrapper.primaryKey key) = some item :=
      Keyed.get_eq_some_iff.mpr ⟨member, by rw [Item.primaryKey, fits, account]; rfl⟩
    exact ⟨key, by rw [table, stored]; rfl⟩
  · rintro ⟨key, present⟩
    rw [table, Option.isSome_map] at present
    obtain ⟨item, stored⟩ := Option.isSome_iff_exists.mp present
    obtain ⟨member, named⟩ := Keyed.get_eq_some_iff.mp stored
    refine ⟨item, member, ?_⟩
    rw [matching_allKeys]
    exact decide_eq_true (PrimaryKey.mk.inj named).1

/-- `removeAllKeys` agrees with the table: no item of another service is in the way. -/
theorem Own.removeAllKeys (own : wrapper.Own keychain) (refused : Bool) :
    Agrees wrapper keychain (wrapper.removeAllKeys refused keychain)
      ((wrapper.table keychain).removeAllKeys refused) := by
  cases refused with
  | true =>
      rw [KeychainTable.removeAllKeys, if_neg fun fine => fine.1 rfl]
      exact own.unchanged false
  | false =>
      rw [KeychainWrapper.removeAllKeys, KeychainTable.removeAllKeys]
      cases any : keychain.items.any wrapper.allKeysQuery.matching with
      | false =>
          rw [delete_of_not_any any, if_neg]
          · exact own.unchanged false
          · rw [← own.any_allKeys, any]
            simp
      | true =>
          rw [delete_of_any any, if_pos ⟨Bool.false_ne_true, own.any_allKeys.mp any⟩]
          refine ⟨rfl, funext fun key => ?_, own.filter _, fun item other => ?_⟩
          · rw [table, Keyed.get_filter, Option.map_eq_none_iff]
            cases stored : keychain.get (wrapper.primaryKey key) with
            | none => rfl
            | some item =>
                have named := (Keyed.get_eq_some_iff.mp stored).2
                rw [Option.filter_some, matching_allKeys,
                  decide_eq_true (PrimaryKey.mk.inj named).1]
                rfl
          · refine List.mem_filter.trans (and_iff_left ?_)
            rw [matching_allKeys, decide_eq_false other]
            rfl

/-- A read finds what the table finds, also when it is refused. -/
theorem Own.find_refused (own : wrapper.Own keychain) (refused : Bool) :
    (copyMatching refused keychain (wrapper.setupKeychainQueryDictionary key accessibility)).map
        Entry.ofItem =
      (wrapper.table keychain).find refused key accessibility := by
  cases refused with
  | true => rfl
  | false => exact own.find

/-- **Every call does what the table says.** -/
theorem Own.perform (own : wrapper.Own keychain) (refused refusedUpdate : Bool)
    (call : KeychainCall) :
    Agrees wrapper keychain (wrapper.perform refused refusedUpdate keychain call)
      ((wrapper.table keychain).perform refused refusedUpdate call) := by
  have data (key : String) (accessibility : Option KeychainItemAccessibility) :
      wrapper.data refused keychain key accessibility =
        ((wrapper.table keychain).find refused key accessibility).map Entry.value := by
    rw [← own.find_refused, Option.map_map]
    rfl
  cases call with
  | setData value key accessibility =>
      exact (own.setData refused refusedUpdate value key accessibility).map KeychainAnswer.result
  | set value key accessibility =>
      exact (own.setData refused refusedUpdate value.toUTF8 key accessibility).map KeychainAnswer.result
  | removeObject key accessibility =>
      exact (own.removeObject refused key accessibility).map KeychainAnswer.result
  | removeAllKeys => exact (own.removeAllKeys refused).map KeychainAnswer.result
  | data key accessibility =>
      rw [KeychainWrapper.perform, KeychainTable.perform, data]
      exact own.unchanged _
  | string key accessibility =>
      rw [KeychainWrapper.perform, KeychainTable.perform, KeychainWrapper.string, data]
      exact own.unchanged _
  | hasValue key accessibility =>
      rw [KeychainWrapper.perform, KeychainTable.perform, KeychainWrapper.hasValue, data,
        Option.isSome_map]
      exact own.unchanged _
  | accessibilityOfKey key =>
      rw [KeychainWrapper.perform, KeychainTable.perform, accessibilityOfKey, ← own.find_refused,
        Option.map_map]
      exact own.unchanged _

theorem found_none (entry : Entry) : entry.found none = true :=
  decide_eq_true fun _ given => nomatch given

/-- The bytes of a text read back as the text. -/
theorem fromUTF8?_toUTF8 (value : String) : String.fromUTF8? value.toUTF8 = some value := by
  rw [String.toUTF8_eq_toByteArray, String.fromUTF8?, dif_pos value.isValidUTF8]
  rfl

/-- A read of a text is the entry's value, read as UTF-8. -/
theorem Own.string_eq (own : wrapper.Own keychain) (key : String) :
    wrapper.string false keychain key none =
      (wrapper.table keychain key).bind fun entry => String.fromUTF8? entry.value := by
  have answer : wrapper.string false keychain key none =
      (((wrapper.table keychain).find false key none).map Entry.value).bind String.fromUTF8? :=
    KeychainAnswer.string.inj (own.perform false false (.string key none)).answer
  rw [answer, KeychainTable.find, if_neg Bool.false_ne_true]
  cases wrapper.table keychain key with
  | none => rfl
  | some entry =>
      rw [Option.filter_some, found_none]
      rfl

/-- A string is read back if it was set, and otherwise what was there before. -/
theorem Own.string_set (own : wrapper.Own keychain) (refused refusedUpdate : Bool)
    (value key : String) :
    wrapper.string false (wrapper.set refused refusedUpdate keychain value key none).2 key none =
      if (wrapper.set refused refusedUpdate keychain value key none).1 then some value
      else wrapper.string false keychain key none := by
  have agrees := own.setData refused refusedUpdate value.toUTF8 key none
  rw [KeychainWrapper.set, agrees.own.string_eq, own.string_eq, agrees.answer, agrees.table,
    KeychainTable.setData]
  cases refused with
  | true => rfl
  | false =>
      cases present : wrapper.table keychain key with
      | none =>
          simp only [Bool.false_eq_true, ↓reduceIte, Function.update_self]
          exact fromUTF8?_toUTF8 value
      | some entry =>
          cases refusedUpdate with
          | true => simp [present]
          | false =>
              simp only [Bool.false_eq_true, ↓reduceIte, Bool.not_false, found_none,
                Bool.and_self, Function.update_self]
              exact fromUTF8?_toUTF8 value

/-- A string is gone if it was removed, and otherwise what was there before. -/
theorem Own.string_removeObject (own : wrapper.Own keychain) (refused : Bool) (key : String) :
    wrapper.string false (wrapper.removeObject refused keychain key none).2 key none =
      if (wrapper.removeObject refused keychain key none).1 then none
      else wrapper.string false keychain key none := by
  have agrees := own.removeObject refused key none
  rw [agrees.own.string_eq, own.string_eq, agrees.answer, agrees.table,
    KeychainTable.removeObject]
  cases (wrapper.table keychain).find refused key none with
  | none => rfl
  | some entry =>
      simp only [↓reduceIte, Function.update_self]
      rfl

/-- A string is set unless the system refuses. -/
theorem Own.set_granted (own : wrapper.Own keychain) (value key : String) :
    (wrapper.set false false keychain value key none).1 = true := by
  rw [KeychainWrapper.set, (own.setData false false value.toUTF8 key none).answer,
    KeychainTable.setData]
  cases wrapper.table keychain key with
  | none => rfl
  | some entry => simp [found_none]

/-- A string is removed unless the system refuses or there is none. -/
theorem Own.removeObject_granted (own : wrapper.Own keychain) (key : String) :
    (wrapper.removeObject false keychain key none).1 = true ∨
      wrapper.string false keychain key none = none := by
  rw [(own.removeObject false key none).answer, own.string_eq, KeychainTable.removeObject,
    KeychainTable.find, if_neg Bool.false_ne_true]
  cases wrapper.table keychain key with
  | none => exact Or.inr rfl
  | some entry =>
      rw [Option.filter_some, found_none]
      exact Or.inl rfl

/-- What a wrapper and its table have in common after a run from `start`. -/
structure Tabled (wrapper : KeychainWrapper) (start keychain : Keychain) (table : KeychainTable) :
    Prop where
  table : wrapper.table keychain = table
  own : wrapper.Own keychain
  others : ∀ item, item.service ≠ wrapper.serviceName →
    (item ∈ keychain.items ↔ item ∈ start.items)

/-- A call keeps the wrapper a table, and answers as the table does. -/
theorem Tabled.perform {start : Keychain} {table : KeychainTable}
    (tabled : Tabled wrapper start keychain table) (refused refusedUpdate : Bool)
    (call : KeychainCall) :
    (wrapper.perform refused refusedUpdate keychain call).1 =
        (table.perform refused refusedUpdate call).1 ∧
      Tabled wrapper start (wrapper.perform refused refusedUpdate keychain call).2
        (table.perform refused refusedUpdate call).2 := by
  obtain ⟨rfl, own, others⟩ := tabled
  have agrees := own.perform refused refusedUpdate call
  exact ⟨agrees.answer, agrees.table, agrees.own,
    fun item other => (agrees.others item other).trans (others item other)⟩

/-- **The wrapper is a table.** Whatever calls the system refuses, a sequence of calls with
their answers is possible on the keychain if and only if it is possible on the table of the
wrapper's items, and it leads to the table of the items then stored. Items of other services
stay as they are. -/
theorem wrapper_is_table (wrapper : KeychainWrapper) {keychain : Keychain}
    (own : wrapper.Own keychain) (events : List KeychainEvent) :
    (∀ finish, wrapper.machine.Run keychain events finish →
        KeychainTable.machine.Run (wrapper.table keychain) events (wrapper.table finish) ∧
          ∀ item, item.service ≠ wrapper.serviceName →
            (item ∈ finish.items ↔ item ∈ keychain.items)) ∧
      ∀ expected, KeychainTable.machine.Run (wrapper.table keychain) events expected →
        ∃ finish, wrapper.machine.Run keychain events finish ∧ wrapper.table finish = expected := by
  have initial : Tabled wrapper keychain keychain (wrapper.table keychain) :=
    ⟨rfl, own, fun _ _ => Iff.rfl⟩
  have follows (before : Keychain) (event : KeychainEvent) (after : Keychain)
      (table : KeychainTable) (tabled : Tabled wrapper keychain before table)
      (step : wrapper.machine.Step before event after) :
      ∃ next, KeychainTable.machine.Step table event next ∧
        Tabled wrapper keychain after next := by
    obtain ⟨answer, next⟩ := tabled.perform event.refused event.refusedUpdate event.call
    cases step.2
    exact ⟨_, ⟨answer.symm.trans step.1, rfl⟩, next⟩
  have answers (table : KeychainTable) (event : KeychainEvent) (after : KeychainTable)
      (before : Keychain) (tabled : Tabled wrapper keychain before table)
      (step : KeychainTable.machine.Step table event after) :
      ∃ next, wrapper.machine.Step before event next ∧ Tabled wrapper keychain next after := by
    obtain ⟨answer, next⟩ := tabled.perform event.refused event.refusedUpdate event.call
    cases step.2
    exact ⟨_, ⟨answer.trans step.1, rfl⟩, next⟩
  refine ⟨fun finish run => ?_, fun expected run => ?_⟩
  · obtain ⟨last, followed, tabled⟩ := run.follow follows initial
    obtain ⟨rfl, _, others⟩ := tabled
    exact ⟨followed, others⟩
  · obtain ⟨last, followed, tabled⟩ := run.follow answers initial
    exact ⟨last, followed, tabled.table⟩

section Uid

instance (keychain : Keychain) (event : KeychainEvent) :
    Decidable (wrapper.machine.enabled keychain event) :=
  inferInstanceAs (Decidable (_ = event.answer))

/-- A uid is stored and read back, while an attempt to protect it otherwise fails. -/
def storesUid : List KeychainEvent :=
  [⟨.set "ann" "uid" none, false, false, .result true⟩,
    ⟨.set "bob" "uid" (some .afterFirstUnlock), false, false, .result false⟩,
    ⟨.string "uid" none, false, false, .string (some "ann")⟩,
    ⟨.string "uid" none, true, false, .string none⟩]

theorem storesUid_is_table :
    ∃ finish, (KeychainWrapper.mk "MyFundi").machine.execute .empty storesUid = some finish ∧
      KeychainTable.machine.Run (fun _ => none) storesUid
        ((KeychainWrapper.mk "MyFundi").table finish) := by
  have reached : ((KeychainWrapper.mk "MyFundi").machine.execute .empty storesUid).isSome := by
    decide
  obtain ⟨finish, executed⟩ := Option.isSome_iff_exists.mp reached
  have own : (KeychainWrapper.mk "MyFundi").Own .empty := fun item member => by cases member
  exact ⟨finish, executed,
    ((wrapper_is_table _ own storesUid).1 finish (Machine.run_of_execute executed)).1⟩

end Uid

end KeychainWrapper

end MyFundi
