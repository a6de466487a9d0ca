import MyFundi.Firebase.Database
import MyFundi.Foundation.Machine

/-!
# The search table

The table shows `postArray`, or `filterResults` while a non-empty search is active.
A new child is appended to the first array only, together with a row inserted into
the table, whichever array the table is showing. `table_coherent_iff` says that the
table stays right exactly as long as no child arrives during a search.
-/

namespace MyFundi

open Foundation

/-- The string operations of the search; their Unicode tables are the platform's. -/
structure SwiftText where
  lowercased : String → String
  contains : String → String → Bool

/-- The search screen's state, with the search controller's activity and text. An
element of the arrays is absent when the child was not a dictionary. -/
structure SearchedDetailsTableViewController where
  postArray : List (Option Node) := []
  filterResults : List (Option Node) := []
  isActive : Bool := false
  searchText : String := ""

namespace SearchedDetailsTableViewController

variable (firebase : Firebase) (text : SwiftText) (vc : SearchedDetailsTableViewController)

/-- The condition on which both data-source methods choose their array. -/
def showsFilterResults : Bool :=
  vc.isActive && vc.searchText != ""

/-- As many rows as the array chosen has elements. -/
def numberOfRowsInSection : Nat :=
  if vc.showsFilterResults then vc.filterResults.length else vc.postArray.length

/-- The post shown in a row; an index out of range traps. -/
def post (row : Nat) : Option (Option Node) :=
  if vc.showsFilterResults then vc.filterResults[row]? else vc.postArray[row]?

/-- `post["title"] as? String` -/
def postTitle (dictionary : Node) : Option String :=
  Node.asString (Node.entry dictionary "title")

/-- The text and the detail text of a cell. -/
def cellForRowAt (row : Nat) : Option (Option String × Option String) :=
  (vc.post row).map fun post =>
    (post.bind postTitle, post.bind fun dictionary => Node.asString (Node.entry dictionary "caption"))

/-- The observer of new children, with the rows it passes to `insertRows`. -/
def childAdded (value : Node) : SearchedDetailsTableViewController × List Nat :=
  let postArray := vc.postArray ++ [firebase.asDictionary value]
  ({ vc with postArray := postArray }, [postArray.length - 1])

/-- Whether the filter keeps a post. Both forced unwraps trap: of an element that is
absent, and of the answer for a post without a title. -/
def keeps (searchText : String) (post : Option Node) : Option Bool := do
  let dictionary ← post
  let title ← postTitle dictionary
  return text.contains (text.lowercased title) (text.lowercased searchText)

/-- `postArray.filter`, in which a trap of the closure is a trap of the filter. -/
def filtered (searchText : String) : List (Option Node) → Option (List (Option Node))
  | [] => some []
  | post :: rest => do
      let kept ← keeps text searchText post
      let others ← filtered searchText rest
      return if kept then post :: others else others

/-- The filtered posts for a search text. -/
def filterContent (searchText : String) : Option SearchedDetailsTableViewController := do
  let filterResults ← filtered text searchText vc.postArray
  return { vc with filterResults := filterResults }

/-- The search bar's text is filtered for, also when the search is cancelled. -/
def updateSearchResults : Option SearchedDetailsTableViewController :=
  vc.filterContent text vc.searchText

/-- A new child arrives; a search is activated or cancelled, which leaves the given
text in the search bar; the text is edited. -/
inductive Action where
  | childAdded (value : Node)
  | setActive (isActive : Bool) (searchText : String)
  | editText (searchText : String)

/-- A child arrives at the observer; every change of the search filters anew. -/
def handle (vc : SearchedDetailsTableViewController) :
    Action → Option SearchedDetailsTableViewController
  | .childAdded value => some (vc.childAdded firebase value).1
  | .setActive isActive searchText =>
      { vc with isActive := isActive, searchText := searchText }.updateSearchResults text
  | .editText searchText => { vc with searchText := searchText }.updateSearchResults text

/-- The search screen, its user and the children it is sent. -/
def machine : Machine SearchedDetailsTableViewController Action where
  enabled := fun _ _ => True
  handle := handle firebase text

/-- Whether a post's lower-cased title contains the lower-cased text. -/
def titleContains (searchText : String) (post : Option Node) : Bool :=
  (post.bind postTitle).any fun title =>
    text.contains (text.lowercased title) (text.lowercased searchText)

/-- The posts the table should offer. -/
def wanted : List (Option Node) :=
  if vc.isActive = true ∧ vc.searchText ≠ "" then
    vc.postArray.filter (titleContains text vc.searchText)
  else vc.postArray

/-- The table is offered these posts, one a row. -/
def Offers (posts : List (Option Node)) : Prop :=
  vc.numberOfRowsInSection = posts.length ∧
    ∀ row < vc.numberOfRowsInSection, vc.post row = posts[row]?

variable {vc}

/-- The filtered posts back the table while a search has a text. -/
theorem showsFilterResults_iff :
    vc.showsFilterResults = true ↔ vc.isActive = true ∧ vc.searchText ≠ "" := by
  simp only [showsFilterResults, Bool.and_eq_true, bne_iff_ne]

/-- Every row offered can be shown. -/
theorem cellForRowAt_isSome_iff (row : Nat) :
    (vc.cellForRowAt row).isSome ↔ row < vc.numberOfRowsInSection := by
  rw [cellForRowAt, Option.isSome_map, post, numberOfRowsInSection]
  split <;> rw [isSome_getElem?]

/-- The array chosen is the one offered: the filtered posts. -/
theorem offers_filterResults (showing : vc.showsFilterResults = true) :
    vc.Offers vc.filterResults := by
  simp only [Offers, numberOfRowsInSection, post, showing, ↓reduceIte, implies_true, and_self]

/-- The array chosen is the one offered: all posts. -/
theorem offers_postArray (showing : vc.showsFilterResults ≠ true) : vc.Offers vc.postArray := by
  simp only [Offers, numberOfRowsInSection, post, showing, ↓reduceIte, Bool.false_eq_true,
    implies_true, and_self]

/-- The filter does not trap exactly when every post has a title. -/
theorem filtered_isSome_iff (searchText : String) {posts : List (Option Node)} :
    (filtered text searchText posts).isSome ↔
      ∀ post ∈ posts, (post.bind postTitle).isSome := by
  induction posts with
  | nil => simp [filtered]
  | cons post rest ih =>
      rw [List.forall_mem_cons, ← ih, filtered, keeps]
      cases post with
      | none => simp
      | some dictionary =>
          cases titled : postTitle dictionary with
          | none => simp [titled]
          | some title => cases filtered text searchText rest <;> simp [titled]

variable {text}

/-- What the filter returns is the sublist of posts whose title contains the text. -/
theorem filtered_eq {searchText : String} {posts kept : List (Option Node)}
    (done : filtered text searchText posts = some kept) :
    kept = posts.filter (titleContains text searchText) := by
  induction posts generalizing kept with
  | nil => cases done; rfl
  | cons post rest ih =>
      simp only [filtered, keeps, Option.bind_eq_bind, Option.bind_eq_some_iff,
        Option.pure_def, Option.some.injEq] at done
      obtain ⟨_, ⟨dictionary, rfl, title, titled, rfl⟩, others, later, rfl⟩ := done
      rw [List.filter_cons, ih later]
      simp only [titleContains, Option.bind_some, titled, Option.any_some]

/-- After an update the filtered posts are those of the search text held. -/
theorem updateSearchResults_eq {updated : SearchedDetailsTableViewController}
    (done : vc.updateSearchResults text = some updated) :
    updated = { vc with
      filterResults := vc.postArray.filter (titleContains text vc.searchText) } := by
  obtain ⟨kept, found, done⟩ := Option.bind_eq_some_iff.mp done
  cases done
  rw [filtered_eq found]

/-- After an update the table offers what it should. -/
theorem offers_wanted_of_update {updated : SearchedDetailsTableViewController}
    (done : vc.updateSearchResults text = some updated) :
    updated.Offers (updated.wanted text) := by
  cases updateSearchResults_eq done
  unfold wanted
  split
  · rename_i active
    exact offers_filterResults (showsFilterResults_iff.mpr active)
  · rename_i inactive
    exact offers_postArray fun showing => inactive (showsFilterResults_iff.mp showing)

variable (text) in
/-- What the table needs of a step. A delivery of a new child must raise the number
of rows by the rows inserted, or the table raises an exception; and after every step
the table is offered the wanted posts. -/
def Coherent (before : SearchedDetailsTableViewController) (action : Action)
    (after : SearchedDetailsTableViewController) : Prop :=
  (∀ value, action = .childAdded value →
      after.numberOfRowsInSection =
        before.numberOfRowsInSection + (before.childAdded firebase value).2.length) ∧
    after.Offers (after.wanted text)

/-- A new child does not arrive while a non-empty search is active. -/
def Unfiltered (before : SearchedDetailsTableViewController) (action : Action) : Prop :=
  ∀ value, action = .childAdded value → ¬ (before.isActive = true ∧ before.searchText ≠ "")

variable {firebase}

/-- A child that arrives is offered unless a filter is showing. -/
theorem coherent_childAdded_iff {before after : SearchedDetailsTableViewController} {value : Node}
    (step : (machine firebase text).Step before (.childAdded value) after) :
    Coherent firebase text before (.childAdded value) after ↔
      Unfiltered before (.childAdded value) := by
  cases step.2
  rw [Unfiltered, ← showsFilterResults_iff]
  constructor
  · rintro ⟨rows, _⟩ _ _ showing
    -- The appended child is not among the rows the table is showing.
    have grown := rows value rfl
    have still : (before.childAdded firebase value).1.showsFilterResults = true := showing
    simp only [numberOfRowsInSection, showing, still, ↓reduceIte] at grown
    exact Nat.succ_ne_self _ grown.symm
  · intro allowed
    have away : before.showsFilterResults ≠ true := allowed value rfl
    have still : (before.childAdded firebase value).1.showsFilterResults ≠ true := away
    refine ⟨?_, ?_⟩
    · rintro _ ⟨⟩
      rw [numberOfRowsInSection, if_neg still, numberOfRowsInSection, if_neg away]
      simp only [childAdded, List.length_append, List.length_singleton]
    · rw [wanted, if_neg fun active => still (showsFilterResults_iff.mpr active)]
      exact offers_postArray still

/-- Only a child that arrives during a search is not offered. -/
theorem coherent_iff {before after : SearchedDetailsTableViewController} {action : Action}
    (step : (machine firebase text).Step before action after) :
    Coherent firebase text before action after ↔ Unfiltered before action := by
  cases action with
  | childAdded value => exact coherent_childAdded_iff step
  | setActive isActive searchText =>
      refine ⟨fun _ _ => nofun, fun _ => ⟨fun _ => nofun, offers_wanted_of_update step.2⟩⟩
  | editText searchText =>
      refine ⟨fun _ _ => nofun, fun _ => ⟨fun _ => nofun, offers_wanted_of_update step.2⟩⟩

/-- **When the search table is coherent.** Along every sequence of new children,
activations, cancellations and edits from a screen just opened, every insertion
matches the table's row counts and every handler leaves the wanted rows exactly when
no child arrives while a non-empty search is active. -/
theorem table_coherent_iff (firebase : Firebase) (text : SwiftText) (actions : List Action) :
    (machine firebase text).Along (Coherent firebase text) {} actions ↔
      (machine firebase text).Guarded Unfiltered {} actions :=
  Machine.Along.congr fun _ _ _ step => coherent_iff step

section Titled

/-- A child that is a dictionary with a string title. -/
def Titled (firebase : Firebase) (value : Node) : Prop :=
  ((firebase.asDictionary value).bind postTitle).isSome

instance (firebase : Firebase) (value : Node) : Decidable (Titled firebase value) :=
  inferInstanceAs (Decidable (_ = true))

/-- An update returns if every post has a title. -/
theorem exists_updateSearchResults (text : SwiftText) (vc : SearchedDetailsTableViewController)
    (titled : ∀ post ∈ vc.postArray, (post.bind postTitle).isSome) :
    ∃ updated, vc.updateSearchResults text = some updated ∧ updated.postArray = vc.postArray := by
  obtain ⟨kept, found⟩ := Option.isSome_iff_exists.mp
    ((filtered_isSome_iff text vc.searchText).mpr titled)
  refine ⟨{ vc with filterResults := kept }, ?_, rfl⟩
  rw [updateSearchResults, filterContent, found]
  rfl

/-- While every child is titled, no handler traps. -/
theorem exists_run_of_titled {actions : List Action}
    (titled : ∀ value, .childAdded value ∈ actions → Titled firebase value)
    (held : ∀ post ∈ vc.postArray, (post.bind postTitle).isSome) :
    ∃ finish, (machine firebase text).Run vc actions finish := by
  induction actions generalizing vc with
  | nil => exact ⟨vc, .nil vc⟩
  | cons action actions ih =>
      have later (value : Node) (member : .childAdded value ∈ actions) : Titled firebase value :=
        titled value (List.mem_cons_of_mem _ member)
      have next : ∃ middle, (machine firebase text).Step vc action middle ∧
          ∀ post ∈ middle.postArray, (post.bind postTitle).isSome := by
        cases action with
        | childAdded value =>
            refine ⟨_, ⟨trivial, rfl⟩, fun post member => ?_⟩
            rcases List.mem_append.mp member with old | new
            · exact held post old
            · cases List.mem_singleton.mp new
              exact titled value List.mem_cons_self
        | setActive isActive searchText =>
            obtain ⟨updated, done, same⟩ := exists_updateSearchResults text
              { vc with isActive := isActive, searchText := searchText } held
            exact ⟨updated, ⟨trivial, done⟩, by rwa [same]⟩
        | editText searchText =>
            obtain ⟨updated, done, same⟩ := exists_updateSearchResults text
              { vc with searchText := searchText } held
            exact ⟨updated, ⟨trivial, done⟩, by rwa [same]⟩
      obtain ⟨middle, step, titles⟩ := next
      obtain ⟨finish, run⟩ := ih later titles
      exact ⟨finish, .cons step run⟩

end Titled

section ChildDuringSearch

/-- The operations on texts of unaccented letters. -/
def plainText : SwiftText where
  lowercased := fun string => String.ofList (string.toList.map Char.toLower)
  contains := fun string other => string.toList.tails.any other.toList.isPrefixOf

/-- A fundraiser with a title and nothing else. -/
def titledChild (title : String) : Node :=
  Node.ofFields [("title", .string title)]

instance (state : SearchedDetailsTableViewController) (action : Action) :
    Decidable ((machine Firebase.byKey plainText).enabled state action) :=
  inferInstanceAs (Decidable True)

/-- A child that arrives during a search is inserted into the table but is not among
its rows. -/
theorem child_during_search_breaks_table :
    ¬ ∀ (firebase : Firebase) (text : SwiftText) (actions : List Action),
      (∀ value, .childAdded value ∈ actions → Titled firebase value) →
        (machine firebase text).Along (Coherent firebase text) {} actions := by
  intro coherent
  have along := coherent Firebase.byKey plainText
    ([.setActive true "", .editText "run"] ++ [.childAdded (titledChild "Run for life")]) (by
      intro value member
      have same : value = titledChild "Run for life" := by simpa using member
      rw [same]
      decide)
  have reached : ((machine Firebase.byKey plainText).execute {}
      [.setActive true "", .editText "run"]).map
        numberOfRowsInSection = some 0 := by decide
  have finished : ((machine Firebase.byKey plainText).execute {}
      ([.setActive true "", .editText "run"] ++
        [.childAdded (titledChild "Run for life")])).map numberOfRowsInSection = some 0 := by
    decide
  obtain ⟨after, executed, rows⟩ := Option.map_eq_some_iff.mp finished
  obtain ⟨before, first, inserted, _⟩ := along.executed executed
  rw [first] at reached
  have grown := inserted _ rfl
  rw [rows, Option.some.inj reached] at grown
  exact absurd grown (Nat.zero_ne_one)

end ChildDuringSearch

end SearchedDetailsTableViewController

end MyFundi
