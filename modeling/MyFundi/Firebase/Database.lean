import Mathlib.Data.Finset.Option
import Mathlib.Data.Finset.Range
import Mathlib.Data.List.Sort
import Mathlib.Data.String.Basic
import MyFundi.Firebase.Value
import MyFundi.Foundation.Assignments

/-!
# The realtime database

The database is one tree of stored values. A reference names a location in it, a
snapshot is the subtree found there, and the three write primitives replace,
merge or remove data under a reference.
-/

namespace MyFundi

open Foundation

/-- What is stored at a place of the database. -/
abbrev Node := Tree String Scalar

/-- A location in the database, as the keys leading to it from the root. -/
abbrev DatabaseReference := List String

/-- The place under a key. -/
def DatabaseReference.child (ref : DatabaseReference) (key : String) : DatabaseReference :=
  ref ++ [key]

namespace Node

/-- `snapshot.value as? String` -/
def asString (node : Node) : Option String :=
  (node.value []).bind Scalar.asString

/-- `snapshot.value as? Int` -/
def asInt (node : Node) : Option Int :=
  (node.value []).bind Scalar.asInt

/-- `snapshot.value as? Float` -/
def asFloat (node : Node) : Option SwiftFloat :=
  (node.value []).bind Scalar.asFloat

/-- `dictionary[key]` for the dictionary a node is delivered as. -/
def entry (node : Node) (key : String) : Node :=
  node.sub [key]

/-- A dictionary of scalars, as the app builds one to store it. -/
def ofFields (fields : List (String × Scalar)) : Node :=
  fields.foldl (fun node field => node.set [field.1] (.leaf field.2)) .null

/-- Fields written one after the other go to places of their own. -/
private theorem entry_foldl {fields : List (String × Scalar)}
    (distinct : (fields.map Prod.fst).Nodup) (node : Node) (key : String) :
    (fields.foldl (fun node field => node.set [field.1] (.leaf field.2)) node).entry key =
      ((fields.lookup key).map Tree.leaf).getD (node.entry key) := by
  induction fields generalizing node with
  | nil => rfl
  | cons field rest ih =>
      rw [List.map_cons, List.nodup_cons] at distinct
      rw [List.foldl_cons, ih distinct.2, List.lookup_cons]
      by_cases same : key = field.1
      · subst same
        have last : rest.lookup field.1 = none := by
          rw [List.lookup_eq_none_iff]
          intro other member
          rw [bne_iff_ne]
          intro equal
          exact distinct.1 (List.mem_map.mpr ⟨other, member, equal.symm⟩)
        simp only [last, Option.map_none, Option.getD_none, entry, Tree.sub_set_self, BEq.rfl,
          Option.map_some, Option.getD_some]
      · have apart := incomparable_append_cons [] (Ne.symm same) [] []
        have away : (key == field.1) = false := beq_eq_false_iff_ne.mpr same
        simp only [entry, away]
        rw [List.nil_append, List.nil_append] at apart
        rw [Tree.sub_set_of_incomparable node _ apart]

/-- A field of a dictionary with distinct keys holds the scalar listed for it. -/
theorem entry_ofFields {fields : List (String × Scalar)}
    (distinct : (fields.map Prod.fst).Nodup) (key : String) :
    (ofFields fields).entry key = ((fields.lookup key).map Tree.leaf).getD .null := by
  rw [ofFields, entry_foldl distinct, entry, Tree.sub_null]

/-- A dictionary has the fields it was made of. -/
theorem value_entry_ofFields {fields : List (String × Scalar)}
    (distinct : (fields.map Prod.fst).Nodup) (key : String) :
    ((ofFields fields).entry key).value [] = fields.lookup key := by
  rw [entry_ofFields distinct]
  cases fields.lookup key <;> rfl

end Node

/-- A write issued by the app. -/
inductive Write where
  | setValue (ref : DatabaseReference) (value : Node)
  | updateChildValues (ref : DatabaseReference) (values : List (String × Node))
  | removeValue (ref : DatabaseReference)

/-- The subtrees a write replaces. Only the listed children change in an update. -/
def Write.assignments : Write → List (Assignment String Scalar)
  | .setValue ref value => [⟨ref, value⟩]
  | .updateChildValues ref values => values.map fun child => ⟨ref.child child.1, child.2⟩
  | .removeValue ref => [⟨ref, .null⟩]

/-- The server applies writes one at a time. -/
def applyWrites (database : Node) (writes : List Write) : Node :=
  database.applyAll (writes.flatMap Write.assignments)

@[simp] theorem applyWrites_nil (database : Node) : applyWrites database [] = database := rfl

@[simp] theorem applyWrites_cons (database : Node) (write : Write) (writes : List Write) :
    applyWrites database (write :: writes) =
      applyWrites (database.applyAll write.assignments) writes := by
  simp only [applyWrites, List.flatMap_cons, Tree.applyAll_append]

theorem applyWrites_append (database : Node) (front rest : List Write) :
    applyWrites database (front ++ rest) = applyWrites (applyWrites database front) rest := by
  simp only [applyWrites, List.flatMap_append, Tree.applyAll_append]

/-- What the app relies on in how the database client delivers a node: the order
in which `children` enumerates its keys, whether `value` is a dictionary or an
array, and the order in which a loop over the dictionary visits its keys. Only a
node with children is either, and one with a key that does not read as an array
index is a dictionary. `isStorageURL` tells the addresses of the app's storage from
other texts. -/
structure Firebase where
  childKeys : Node → List String
  isDictionary : Node → Bool
  dictionaryKeys : Node → List String
  elements : Node → Option (List Node)
  isStorageURL : String → Bool
  childKeys_nodup : ∀ node, (childKeys node).Nodup
  dictionaryKeys_perm : ∀ node, (dictionaryKeys node).Perm (childKeys node)
  mem_childKeys : ∀ node key, key ∈ childKeys node ↔ ¬ (node.sub [key]).IsNull
  isDictionary_of_key : ∀ node key, ¬ (node.sub [key]).IsNull →
    (key.toList.any fun char => !char.isDigit) = true → isDictionary node = true
  childKeys_of_isDictionary : ∀ node, isDictionary node = true → childKeys node ≠ []
  childKeys_of_elements : ∀ node, (elements node).isSome → childKeys node ≠ []
  elements_of_isDictionary : ∀ node, isDictionary node = true → elements node = none

/-- A child as `snapshot.children` enumerates it. -/
structure DataSnapshot where
  key : String
  value : Node

namespace Firebase

variable (firebase : Firebase)

/-- `snapshot.children.allObjects` -/
def allObjects (node : Node) : List DataSnapshot :=
  (firebase.childKeys node).map fun key => ⟨key, node.sub [key]⟩

/-- `snapshot.value as? Dictionary<String, AnyObject>` -/
def asDictionary (node : Node) : Option Node :=
  if firebase.isDictionary node then some node else none

/-- `Storage.storage().reference(forURL: url)`, which raises for an address that is not
one of the app's storage. -/
def referenceForURL (url : String) : Option String :=
  if firebase.isStorageURL url then some url else none

/-- `snapshot.value as? [String]` -/
def asStringArray (node : Node) : Option (List String) :=
  (firebase.elements node).bind fun elements => elements.mapM Node.asString

/-- The reference returned is for the address given. -/
theorem referenceForURL_eq_some_iff {url ref : String} :
    firebase.referenceForURL url = some ref ↔ firebase.isStorageURL url = true ∧ ref = url := by
  rw [referenceForURL, Option.ite_none_right_eq_some, Option.some.injEq, eq_comm (a := url)]

/-- `reference(forURL:)` returns for the addresses of the app's storage. -/
theorem referenceForURL_isSome_iff (url : String) :
    (firebase.referenceForURL url).isSome ↔ firebase.isStorageURL url = true := by
  rw [referenceForURL, Option.isSome_ite]

/-- The objects of a snapshot stand under its children's keys. -/
theorem allObjects_map_key (node : Node) :
    (firebase.allObjects node).map DataSnapshot.key = firebase.childKeys node := by
  simp only [allObjects, List.map_map, Function.comp_def, List.map_id']

/-- A node with a key that is no number is a dictionary, never an array. -/
theorem asDictionary_of_key {node : Node} {key : String} (present : ¬ (node.sub [key]).IsNull)
    (name : (key.toList.any fun char => !char.isDigit) = true) :
    firebase.asDictionary node = some node :=
  if_pos (firebase.isDictionary_of_key node key present name)

/-- Absent data is not delivered as a dictionary. -/
theorem asDictionary_of_isNull {node : Node} (absent : node.IsNull) :
    firebase.asDictionary node = none := by
  refine if_neg fun delivered => ?_
  obtain ⟨key, member⟩ := List.exists_mem_of_ne_nil _
    (firebase.childKeys_of_isDictionary node delivered)
  exact (firebase.mem_childKeys node key).mp member (absent.sub [key])

/-- The keys of a node's children. -/
def keySet (node : Node) : Finset String :=
  (node.support.image List.head?).eraseNone

/-- The keys of a node are those under which it has something. -/
theorem mem_keySet (node : Node) (key : String) :
    key ∈ keySet node ↔ ¬ (node.sub [key]).IsNull := by
  simp only [keySet, Finset.mem_eraseNone, Finset.mem_image, Tree.isNull_iff_value, not_forall,
    Tree.value_sub, ← Option.isSome_iff_ne_none, node.mem_support]
  constructor
  · rintro ⟨path, present, head⟩
    obtain ⟨rest, rfl⟩ := List.head?_eq_some_iff.mp head
    exact ⟨rest, present⟩
  · rintro ⟨rest, present⟩
    exact ⟨key :: rest, present, rfl⟩

/-- The keys in increasing order. -/
def sortedKeys (keys : Finset String) : List String :=
  Quot.liftOn keys.val (List.insertionSort (· ≤ ·)) fun first second same =>
    ((List.perm_insertionSort _ first).trans
      (same.trans (List.perm_insertionSort _ second).symm)).eq_of_pairwise'
        (List.pairwise_insertionSort _ first) (List.pairwise_insertionSort _ second)

theorem coe_sortedKeys (keys : Finset String) :
    (sortedKeys keys : Multiset String) = keys.val := by
  obtain ⟨keys, nodup⟩ := keys
  induction keys using Quotient.inductionOn with
  | h list => exact Multiset.coe_eq_coe.mpr (List.perm_insertionSort _ list)

theorem sortedKeys_nodup (keys : Finset String) : (sortedKeys keys).Nodup := by
  rw [← Multiset.coe_nodup, coe_sortedKeys]
  exact keys.nodup

theorem mem_sortedKeys (keys : Finset String) (key : String) :
    key ∈ sortedKeys keys ↔ key ∈ keys := by
  rw [← Multiset.mem_coe, coe_sortedKeys]
  rfl

/-- The text is a `gs://` address. -/
def isGsURL (url : String) : Bool :=
  url.toList.take 5 = "gs://".toList

/-- A client that enumerates children in the order of their keys and delivers every
node with children as a dictionary. Its storage has every `gs://` address. -/
def byKey : Firebase where
  childKeys := fun node => sortedKeys (keySet node)
  isDictionary := fun node => keySet node ≠ ∅
  dictionaryKeys := fun node => sortedKeys (keySet node)
  elements := fun _ => none
  isStorageURL := isGsURL
  childKeys_nodup := fun node => sortedKeys_nodup (keySet node)
  dictionaryKeys_perm := fun _ => List.Perm.refl _
  mem_childKeys := by
    intro node key
    rw [mem_sortedKeys, mem_keySet]
  isDictionary_of_key := by
    intro node key present _
    exact decide_eq_true (Finset.ne_empty_of_mem ((mem_keySet node key).mpr present))
  childKeys_of_isDictionary := by
    intro node delivered
    obtain ⟨key, member⟩ := Finset.nonempty_iff_ne_empty.mpr (of_decide_eq_true delivered)
    exact List.ne_nil_of_mem ((mem_sortedKeys _ key).mpr member)
  childKeys_of_elements := by simp
  elements_of_isDictionary := fun _ _ => rfl

/-- The keys of a node's children are the indices of an array. -/
def Indexed (node : Node) : Prop :=
  keySet node ≠ ∅ ∧ keySet node = (Finset.range (keySet node).card).image toString ∧
    ∀ key ∈ keySet node, (key.toList.any fun char => !char.isDigit) = false

instance (node : Node) : Decidable (Indexed node) :=
  inferInstanceAs (Decidable (_ ∧ _ ∧ ∀ key ∈ keySet node, _))

/-- A client that enumerates children in the order of their keys and delivers a node
with children as an array when its keys are indices, else as a dictionary. Its storage
has every `gs://` address. -/
def byIndex : Firebase where
  childKeys := fun node => sortedKeys (keySet node)
  isDictionary := fun node => keySet node ≠ ∅ ∧ ¬ Indexed node
  dictionaryKeys := fun node => sortedKeys (keySet node)
  elements := fun node =>
    if Indexed node then
      some ((List.range (keySet node).card).map fun index => node.sub [toString index])
    else none
  isStorageURL := isGsURL
  childKeys_nodup := fun node => sortedKeys_nodup (keySet node)
  dictionaryKeys_perm := fun _ => List.Perm.refl _
  mem_childKeys := by
    intro node key
    rw [mem_sortedKeys, mem_keySet]
  isDictionary_of_key := by
    intro node key present name
    have member := (mem_keySet node key).mpr present
    refine decide_eq_true ⟨Finset.ne_empty_of_mem member, fun indexed => ?_⟩
    rw [indexed.2.2 key member] at name
    cases name
  childKeys_of_isDictionary := by
    intro node delivered
    obtain ⟨key, member⟩ := Finset.nonempty_iff_ne_empty.mpr (of_decide_eq_true delivered).1
    exact List.ne_nil_of_mem ((mem_sortedKeys _ key).mpr member)
  childKeys_of_elements := by
    intro node delivered
    split at delivered
    · rename_i indexed
      obtain ⟨key, member⟩ := Finset.nonempty_iff_ne_empty.mpr indexed.1
      exact List.ne_nil_of_mem ((mem_sortedKeys _ key).mpr member)
    · cases delivered
  elements_of_isDictionary := fun _ delivered => if_neg (of_decide_eq_true delivered).2

instance : Inhabited Firebase := ⟨byKey⟩

end Firebase

end MyFundi
