import MyFundi.Profile.Observers

/-!
# The two readers of a user's fundraisers

The users observer of the profile reads the fundraisers of a record as a map and
collects its keys; `User.init` reads the same child as an array of strings and leaves
its field absent otherwise, so that its getter traps. No stored value is read alike
(`readers_never_agree`).
-/

namespace MyFundi

open Foundation

variable (firebase : Firebase)

/-- The keys the users observer collects from a record. -/
def collectedKeys (record : Node) : List String :=
  ((firebase.asDictionary (Node.entry record "fundraisers")).map firebase.dictionaryKeys).getD []

/-- The keys the profile holds after showing a record. -/
theorem showUser_fundraiserKeys {firebase : Firebase} {vc shown : ProfileVC} {record : Node}
    {effects : List ProfileEffect} (delivered : firebase.asDictionary record = some record)
    (done : vc.showUser firebase record = some (shown, effects)) :
    shown.fundraiserKeys = collectedKeys firebase record := by
  obtain ⟨_, ⟨absent, _⟩ | ⟨other, same, cases⟩⟩ := ProfileVC.showUser_cases done
  · rw [delivered] at absent
    cases absent
  · rw [delivered] at same
    cases same
    rcases cases with ⟨noMap, keys, _⟩ | ⟨map, hasMap, keys, _⟩
    · rw [keys, collectedKeys, noMap]
      rfl
    · rw [keys, collectedKeys, hasMap]
      rfl

/-- The getter `FundraiserKeys` returns, and returns the keys the profile collects. -/
def ReadersAgree (userKey : String) (record : Node) : Prop :=
  ∃ keys, (User.init firebase userKey record).fundraiserKeys = some keys ∧
    ∀ key, key ∈ keys ↔ key ∈ collectedKeys firebase record

/-- The fundraisers of a record are absent, a map, or an array of strings. -/
inductive FundraisersShape (record : Node) : Prop where
  | absent (none : (Node.entry record "fundraisers").IsNull)
  | map (delivered : (firebase.asDictionary (Node.entry record "fundraisers")).isSome)
  | array (delivered : (firebase.asStringArray (Node.entry record "fundraisers")).isSome)

variable {firebase}

/-- What is absent or a map is not an array of strings. -/
theorem asStringArray_of_elements {node : Node} (none : firebase.elements node = none) :
    firebase.asStringArray node = .none := by
  rw [Firebase.asStringArray, none, Option.bind_none]

/-- Nothing stored is no array. -/
theorem elements_of_isNull {node : Node} (absent : node.IsNull) :
    firebase.elements node = none := by
  by_contra present
  have children := firebase.childKeys_of_elements node (Option.isSome_iff_ne_none.mpr present)
  obtain ⟨key, member⟩ := List.exists_mem_of_ne_nil _ children
  exact (firebase.mem_childKeys node key).mp member (absent.sub [key])

/-- An array with elements that is read as strings has a string. -/
theorem exists_mem_of_asStringArray {node : Node} {keys : List String}
    (arrays : ∀ elements, firebase.elements node = some elements → elements ≠ [])
    (delivered : firebase.asStringArray node = some keys) : ∃ key, key ∈ keys := by
  obtain ⟨elements, array, strings⟩ := Option.bind_eq_some_iff.mp delivered
  cases elements with
  | nil => exact (arrays [] array rfl).elim
  | cons first rest =>
      simp only [List.mapM_cons, Option.bind_eq_bind, Option.bind_eq_some_iff, Option.pure_def,
        Option.some.injEq] at strings
      obtain ⟨key, _, others, _, rfl⟩ := strings
      exact ⟨key, List.mem_cons_self⟩

/-- What is delivered as an array is not delivered as a map. -/
theorem asDictionary_of_asStringArray {node : Node} {keys : List String}
    (delivered : firebase.asStringArray node = some keys) :
    firebase.asDictionary node = none := by
  apply if_neg
  intro map
  rw [asStringArray_of_elements (firebase.elements_of_isDictionary node map)] at delivered
  cases delivered

/-- **The readers never agree.** Assuming that an array is only delivered with elements,
whatever the shape of the fundraisers of a record, the getter of the user's keys traps
or gives other keys than the profile collects. -/
theorem readers_never_agree (firebase : Firebase)
    (arrays : ∀ node elements, firebase.elements node = some elements → elements ≠ [])
    (userKey : String) (record : Node) (shape : FundraisersShape firebase record) :
    ¬ ReadersAgree firebase userKey record := by
  rintro ⟨keys, read, same⟩
  change firebase.asStringArray (Node.entry record "fundraisers") = some keys at read
  cases shape with
  | absent none =>
      rw [asStringArray_of_elements (elements_of_isNull none)] at read
      cases read
  | map delivered =>
      rw [asDictionary_of_asStringArray read] at delivered
      cases delivered
  | array _ =>
      obtain ⟨key, member⟩ := exists_mem_of_asStringArray (arrays _) read
      have collected := (same key).mp member
      rw [collectedKeys, asDictionary_of_asStringArray read] at collected
      cases collected

/-- A record whose fundraisers are an array. -/
def arrayRecord : Node :=
  Tree.null.applyAll [⟨["name"], .leaf (.string "Ann")⟩,
    ⟨["fundraisers", "0"], .leaf (.string "walk")⟩]

/-- The profile collects no key from an array, and the getter gives its string. -/
theorem array_record_read_differently : ¬ ReadersAgree Firebase.byIndex "ann" arrayRecord := by
  refine readers_never_agree Firebase.byIndex ?_ "ann" arrayRecord (.array (by decide))
  intro node elements delivered
  by_cases indexed : Firebase.Indexed node
  · rw [show Firebase.byIndex.elements node = some _ from if_pos indexed] at delivered
    rw [← Option.some.inj delivered, ne_eq, List.map_eq_nil_iff, List.range_eq_nil,
      Finset.card_eq_zero]
    exact indexed.1
  · rw [show Firebase.byIndex.elements node = none from if_neg indexed] at delivered
    cases delivered

/-- A record whose fundraisers are a map, as the profile expects it. -/
def mapRecord : Node :=
  Tree.null.applyAll [⟨["name"], .leaf (.string "Ann")⟩,
    ⟨["fundraisers", "walk"], .leaf (.bool true)⟩]

/-- The getter traps on the map that the profile reads. -/
theorem map_record_traps_getter :
    ¬ ∀ (firebase : Firebase) (userKey : String) (record : Node),
      FundraisersShape firebase record → ReadersAgree firebase userKey record := by
  intro agree
  obtain ⟨keys, read, _⟩ := agree Firebase.byKey "ann" mapRecord (.map (by decide))
  cases read

end MyFundi
