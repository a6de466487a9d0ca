import MyFundi.Search.Table

/-!
# Searching any content

The observer of new children stores whatever the database holds, and the filter
unwraps every stored element and every title by force. A search therefore returns,
and finds what it should, exactly when every child delivered is a dictionary with a
title (`search_exact_iff`).
-/

namespace MyFundi

open Foundation

namespace SearchedDetailsTableViewController

variable (firebase : Firebase) (text : SwiftText)

/-- A screen whose observer was given these children, one after the other. -/
def observed (values : List Node) : SearchedDetailsTableViewController :=
  values.foldl (fun vc value => (vc.childAdded firebase value).1) {}

/-- The search returns, and leaves in order the elements that are dictionaries with a
title containing the text. -/
def SearchExact (values : List Node) (searchText : String) : Prop :=
  ∃ searched, (observed firebase values).filterContent text searchText = some searched ∧
    searched.filterResults =
      (values.map firebase.asDictionary).filter (titleContains text searchText)

variable {firebase}

/-- Every child is stored, in the order of delivery. -/
theorem postArray_observed (values : List Node) :
    (observed firebase values).postArray = values.map firebase.asDictionary := by
  induction values using List.reverseRecOn with
  | nil => rfl
  | append_singleton values value ih =>
      rw [observed, List.foldl_append, List.map_append, ← ih]
      rfl

/-- The filter returns exactly when every stored element has a title. -/
theorem filterContent_isSome_iff (vc : SearchedDetailsTableViewController)
    (searchText : String) :
    (vc.filterContent text searchText).isSome ↔
      ∀ post ∈ vc.postArray, (post.bind postTitle).isSome := by
  rw [← filtered_isSome_iff text searchText, filterContent]
  cases filtered text searchText vc.postArray <;> rfl

/-- **When a search is total and exact.** Whatever children the observer was given
and whatever text is searched for, the search returns with exactly the matching
titled elements if and only if every child is a dictionary with a title. -/
theorem search_exact_iff (firebase : Firebase) (text : SwiftText) (values : List Node)
    (searchText : String) :
    SearchExact firebase text values searchText ↔ ∀ value ∈ values, Titled firebase value := by
  have returns := filterContent_isSome_iff text (observed firebase values) searchText
  rw [postArray_observed, List.forall_mem_map] at returns
  refine Iff.trans ⟨?_, ?_⟩ returns
  · rintro ⟨searched, done, _⟩
    exact Option.isSome_of_eq_some done
  · intro done
    obtain ⟨searched, done⟩ := Option.isSome_iff_exists.mp done
    refine ⟨searched, done, ?_⟩
    obtain ⟨kept, found, stored⟩ := Option.bind_eq_some_iff.mp done
    cases stored
    rw [← postArray_observed]
    exact filtered_eq found

/-- One child without a title makes every search trap. -/
theorem untitled_child_stops_search :
    ¬ ∀ (firebase : Firebase) (text : SwiftText) (values : List Node) (searchText : String),
      searchText ≠ "" → SearchExact firebase text values searchText := by
  intro exact
  have searched := exact Firebase.byKey plainText
    [titledChild "Run for life", Node.ofFields [("caption", .string "A walk")]] "run" (by decide)
  obtain ⟨vc, done, _⟩ := searched
  have returns := (filterContent_isSome_iff plainText _ "run").mp (Option.isSome_of_eq_some done)
  rw [postArray_observed] at returns
  exact absurd returns (by decide)

end SearchedDetailsTableViewController

end MyFundi
