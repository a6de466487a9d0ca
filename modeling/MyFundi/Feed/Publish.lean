import MyFundi.Feed.Records
import MyFundi.Foundation.InFlight
import MyFundi.Foundation.Machine

/-!
# Publishing from the feed

The post button checks the caption and the image and starts an upload; the record is
written when the upload succeeds, with the caption the field holds by then. Nothing
keeps the field from changing in between, and every record written clears it.
`published_iff` says that what is published is what was validated exactly when each
upload succeeds while the field holds the caption checked at its tap.
-/

namespace MyFundi

open Foundation

/-- The fields of the feed that publishing reads and changes. The text of a text
field is never absent. -/
structure FeedVC (Image : Type) where
  captionField : String
  addImage : Option Image
  imageSelected : Bool

/-- An upload, with the caption checked at the tap that started it. -/
structure Upload (Data : Type) where
  caption : String
  imgData : Data

namespace FeedVC

variable {Image Data : Type}

/-- An edited image is taken over; any other result of the picker is ignored. -/
def imagePickerController (vc : FeedVC Image) (editedImage : Option Image) : FeedVC Image :=
  match editedImage with
  | some image => { vc with addImage := some image, imageSelected := true }
  | none => vc

/-- The upload a tap on the post button starts, if it passes both guards and the
image has a JPEG representation. -/
def postBtnTapped (jpeg : Image → Option Data) (vc : FeedVC Image) : Option (Upload Data) :=
  if vc.captionField ≠ "" then
    match vc.addImage with
    | some img =>
        if vc.imageSelected = true then
          (jpeg img).map fun imgData => { caption := vc.captionField, imgData := imgData }
        else none
    | none => none
  else none

/-- The fields after a record was written. -/
def cleared (placeholder : Option Image) : FeedVC Image where
  captionField := ""
  addImage := placeholder
  imageSelected := false

/-- An upload starts with the caption in the field, which is not empty. -/
theorem caption_of_postBtnTapped {jpeg : Image → Option Data} {vc : FeedVC Image}
    {upload : Upload Data} (started : vc.postBtnTapped jpeg = some upload) :
    upload.caption = vc.captionField ∧ upload.caption ≠ "" := by
  unfold postBtnTapped at started
  split at started
  · rename_i entered
    split at started
    · split at started
      · obtain ⟨imgData, _, rfl⟩ := Option.map_eq_some_iff.mp started
        exact ⟨rfl, entered⟩
      · cases started
    · cases started
  · cases started

end FeedVC

namespace Publishing

variable {Image Data : Type} (jpeg : Image → Option Data) (placeholder : Option Image)

/-- The feed with its uploads in flight, the successful ones with their download
addresses in the order in which they succeeded, and the records written, with the
keys generated for them. -/
structure State (Image Data : Type) where
  vc : FeedVC Image
  uploads : InFlight (Upload Data)
  succeeded : List (Nat × Upload Data × String)
  records : List (String × Write)

/-- What the user and the storage can do: edit the caption, pick an image, tap the button, end
an upload. -/
inductive Action (Image : Type) where
  | editCaption (text : String)
  | pickImage (editedImage : Option Image)
  | postBtnTapped
  | uploadSucceeded (ticket : Nat) (url key : String)
  | uploadFailed (ticket : Nat)

/-- A success writes the fundraiser under a new key and empties the form; a failure does
nothing. -/
def handle (state : State Image Data) : Action Image → Option (State Image Data)
  | .editCaption text => some { state with vc := { state.vc with captionField := text } }
  | .pickImage editedImage =>
      some { state with vc := state.vc.imagePickerController editedImage }
  | .postBtnTapped =>
      match state.vc.postBtnTapped jpeg with
      | some upload => some { state with uploads := state.uploads.start upload }
      | none => some state
  | .uploadSucceeded ticket url key => do
      let upload ← state.uploads.find ticket
      return {
        vc := .cleared placeholder
        uploads := state.uploads.finish ticket
        succeeded := state.succeeded ++ [(ticket, upload, url)]
        records := state.records ++
          [(key, FeedVC.postToFirebase key state.vc.captionField url)] }
  | .uploadFailed ticket => some { state with uploads := state.uploads.finish ticket }

/-- Only an upload in flight is answered, and a generated key is new. -/
def Enabled (state : State Image Data) : Action Image → Prop
  | .uploadSucceeded ticket _ key =>
      (state.uploads.find ticket).isSome ∧ key ∉ state.records.map Prod.fst
  | .uploadFailed ticket => (state.uploads.find ticket).isSome
  | _ => True

instance (state : State Image Data) : (action : Action Image) → Decidable (Enabled state action)
  | .uploadSucceeded _ _ _ => inferInstanceAs (Decidable (_ ∧ _))
  | .uploadFailed _ => inferInstanceAs (Decidable (_ = true))
  | .editCaption _ | .pickImage _ | .postBtnTapped => .isTrue trivial

/-- The form of one feed and its uploads. -/
def machine : Machine (State Image Data) (Action Image) where
  enabled := Enabled
  handle := handle jpeg placeholder

/-- A feed before anything was published. -/
def initial (vc : FeedVC Image) : State Image Data where
  vc := vc
  uploads := .empty
  succeeded := []
  records := []

/-- A record written publishes a successful upload: it has the address of the upload
and the caption checked at its tap, which is not empty. -/
def Publishes (upload : Nat × Upload Data × String) (record : String × Write) : Prop :=
  upload.2.1.caption ≠ "" ∧
    ∃ post, record.2 = .setValue (DataService.refFundraisers.child record.1) post ∧
      Node.asString (post.entry "caption") = some upload.2.1.caption ∧
      Node.asString (post.entry "imageUrl") = some upload.2.2

/-- The records correspond one-to-one to the taps whose upload succeeded, and each
publishes its upload. -/
structure Published (state : State Image Data) : Prop where
  taps_distinct : (state.succeeded.map Prod.fst).Nodup
  keys_distinct : (state.records.map Prod.fst).Nodup
  records : List.Forall₂ Publishes state.succeeded state.records

/-- What holds after any run: the taps whose upload succeeded are settled, and every
upload in flight carries a non-empty caption. -/
structure Accounted (state : State Image Data) : Prop where
  settled : ∀ upload ∈ state.succeeded, state.uploads.Settled upload.1
  validated : ∀ ticket upload, state.uploads.find ticket = some upload → upload.caption ≠ ""

/-- An upload succeeds while the caption field holds the caption checked at its tap. -/
def Unedited (state : State Image Data) (action : Action Image) : Prop :=
  ∀ ticket url key upload, action = .uploadSucceeded ticket url key →
    state.uploads.find ticket = some upload → state.vc.captionField = upload.caption

variable {jpeg} {placeholder}

theorem accounted_initial (vc : FeedVC Image) : Accounted (initial vc : State Image Data) where
  settled := by intro upload member; cases member
  validated := by intro ticket upload found; cases found

theorem published_initial (vc : FeedVC Image) : Published (initial vc : State Image Data) where
  taps_distinct := List.nodup_nil
  keys_distinct := List.nodup_nil
  records := .nil

/-- An answered upload is accounted for as before. -/
theorem Accounted.finish {state : State Image Data} (accounted : Accounted state) (ticket : Nat) :
    Accounted { state with uploads := state.uploads.finish ticket } where
  settled := fun upload member => (accounted.settled upload member).finish ticket
  validated := fun other upload found =>
    accounted.validated other upload (InFlight.find_of_find_finish found).1

/-- What a successful upload does. -/
theorem step_uploadSucceeded {before after : State Image Data} {ticket : Nat} {url key : String}
    (step : (machine jpeg placeholder).Step before (.uploadSucceeded ticket url key) after) :
    ∃ upload, before.uploads.find ticket = some upload ∧ key ∉ before.records.map Prod.fst ∧
      after = {
        vc := .cleared placeholder
        uploads := before.uploads.finish ticket
        succeeded := before.succeeded ++ [(ticket, upload, url)]
        records := before.records ++
          [(key, FeedVC.postToFirebase key before.vc.captionField url)] } := by
  obtain ⟨enabled, handled⟩ := step
  obtain ⟨upload, found, handled⟩ := Option.bind_eq_some_iff.mp handled
  cases handled
  exact ⟨upload, found, enabled.2, rfl⟩

/-- No other step records anything. -/
theorem step_other {before after : State Image Data} {action : Action Image}
    (step : (machine jpeg placeholder).Step before action after)
    (other : ∀ ticket url key, action ≠ .uploadSucceeded ticket url key) :
    after.succeeded = before.succeeded ∧ after.records = before.records := by
  obtain ⟨_, handled⟩ := step
  cases action with
  | editCaption text => cases handled; exact ⟨rfl, rfl⟩
  | pickImage editedImage => cases handled; exact ⟨rfl, rfl⟩
  | postBtnTapped =>
      simp only [machine, handle] at handled
      split at handled <;> cases handled <;> exact ⟨rfl, rfl⟩
  | uploadSucceeded ticket url key => exact (other ticket url key rfl).elim
  | uploadFailed ticket => cases handled; exact ⟨rfl, rfl⟩

/-- Every step accounts for the uploads it starts and ends. -/
theorem Accounted.step {before after : State Image Data} {action : Action Image}
    (accounted : Accounted before)
    (step : (machine jpeg placeholder).Step before action after) : Accounted after := by
  cases action with
  | editCaption text => cases step.2; exact ⟨accounted.settled, accounted.validated⟩
  | pickImage editedImage => cases step.2; exact ⟨accounted.settled, accounted.validated⟩
  | postBtnTapped =>
      obtain ⟨_, handled⟩ := step
      simp only [machine, handle] at handled
      split at handled
      · rename_i upload started
        cases handled
        refine ⟨fun entry member => (accounted.settled entry member).start upload, ?_⟩
        intro ticket found present
        change (before.uploads.start upload).find ticket = some found at present
        rw [InFlight.find_start] at present
        split at present
        · cases present
          exact (FeedVC.caption_of_postBtnTapped started).2
        · exact accounted.validated ticket found present
      · cases handled
        exact accounted
  | uploadSucceeded ticket url key =>
      obtain ⟨upload, found, _, rfl⟩ := step_uploadSucceeded step
      refine ⟨?_, (accounted.finish ticket).validated⟩
      intro entry member
      rcases List.mem_append.mp member with old | new
      · exact (accounted.finish ticket).settled entry old
      · cases List.mem_singleton.mp new
        exact InFlight.Settled.of_finish found
  | uploadFailed ticket => cases step.2; exact accounted.finish ticket

/-- The record of a successful upload publishes it exactly when the field still
holds its caption. -/
theorem publishes_iff (ticket : Nat) (upload : Upload Data) (url key captionField : String)
    (validated : upload.caption ≠ "") :
    Publishes (ticket, upload, url) (key, FeedVC.postToFirebase key captionField url) ↔
      captionField = upload.caption := by
  have distinct : ((FeedVC.post captionField url).map Prod.fst).Nodup :=
    (RecordWriter.feedVC captionField url).post_keys_nodup
  have caption : Node.asString ((Node.ofFields (FeedVC.post captionField url)).entry "caption") =
      some captionField := by
    rw [Node.asString, Node.value_entry_ofFields distinct]
    rfl
  have imageUrl : Node.asString ((Node.ofFields (FeedVC.post captionField url)).entry "imageUrl") =
      some url := by
    rw [Node.asString, Node.value_entry_ofFields distinct]
    rfl
  constructor
  · rintro ⟨_, post, written, held, _⟩
    cases written
    exact Option.some.inj (caption.symm.trans held)
  · rintro rfl
    exact ⟨validated, _, rfl, caption, imageUrl⟩

/-- Related lists stay related if what is added to them is. -/
theorem forall₂_concat_iff {α β : Type} {relation : α → β → Prop} {lefts : List α}
    {rights : List β} (related : List.Forall₂ relation lefts rights) (left : α) (right : β) :
    List.Forall₂ relation (lefts ++ [left]) (rights ++ [right]) ↔ relation left right := by
  induction related with
  | nil => simp
  | cons head _ ih => simp only [List.cons_append, List.forall₂_cons, head, ih, true_and]

/-- A step keeps what is published right exactly when its upload is unedited. -/
theorem published_step_iff {before after : State Image Data} {action : Action Image}
    (accounted : Accounted before) (published : Published before)
    (step : (machine jpeg placeholder).Step before action after) :
    Published after ↔ Unedited before action := by
  by_cases success : ∃ ticket url key, action = .uploadSucceeded ticket url key
  · obtain ⟨ticket, url, key, rfl⟩ := success
    obtain ⟨upload, found, fresh, rfl⟩ := step_uploadSucceeded step
    have validated := accounted.validated ticket upload found
    have unsettled : ticket ∉ before.succeeded.map Prod.fst := by
      intro member
      obtain ⟨entry, present, rfl⟩ := List.mem_map.mp member
      rw [(accounted.settled entry present).2] at found
      cases found
    have tickets : ((before.succeeded ++ [(ticket, upload, url)]).map Prod.fst).Nodup := by
      rw [List.map_append]
      exact published.taps_distinct.append (by simp) (by simpa using unsettled)
    have keys : ((before.records ++ [(key, FeedVC.postToFirebase key before.vc.captionField
        url)]).map Prod.fst).Nodup := by
      rw [List.map_append]
      exact published.keys_distinct.append (by simp) (by simpa using fresh)
    have exact := publishes_iff ticket upload url key before.vc.captionField validated
    constructor
    · rintro ⟨_, _, records⟩ _ _ _ other ⟨⟩ again
      rw [found] at again
      cases again
      exact exact.mp ((forall₂_concat_iff published.records _ _).mp records)
    · intro unedited
      have held := unedited ticket url key upload rfl found
      exact ⟨tickets, keys, (forall₂_concat_iff published.records _ _).mpr (exact.mpr held)⟩
  · push Not at success
    obtain ⟨succeeded, records⟩ := step_other step success
    refine ⟨fun _ ticket url key _ same => (success ticket url key same).elim, fun _ => ?_⟩
    exact ⟨succeeded ▸ published.taps_distinct, records ▸ published.keys_distinct,
      succeeded ▸ records ▸ published.records⟩

/-- **When what is published was validated.** Along every interleaving of caption
edits, image picks, taps and upload completions, after every step the records
written correspond one-to-one to the taps whose upload succeeded, each with the
address of the upload and the non-empty caption checked at the tap, exactly when
each upload succeeds while the caption field holds the caption checked at its tap. -/
theorem published_iff {Image Data : Type} (jpeg : Image → Option Data)
    (placeholder : Option Image) (vc : FeedVC Image) (actions : List (Action Image)) :
    (machine jpeg placeholder).Along (fun _ _ after => Published after)
        (initial vc : State Image Data) actions ↔
      (machine jpeg placeholder).Guarded Unedited (initial vc) actions :=
  Machine.Along.iff_of_agree
    (fun before _ _ (held : Accounted before ∧ Published before) step =>
      published_step_iff held.1 held.2 step)
    (fun _ _ _ held step unedited =>
      ⟨held.1.step step, (published_step_iff held.1 held.2 step).mpr unedited⟩)
    ⟨accounted_initial vc, published_initial vc⟩

instance (state : State Image Data) (action : Action Image) :
    Decidable ((machine jpeg placeholder).enabled state action) :=
  inferInstanceAs (Decidable (Enabled state action))

/-- A second tap before the first upload succeeds publishes an empty caption. -/
theorem second_tap_publishes_empty_caption :
    ¬ ∀ (jpeg : Unit → Option Unit) (placeholder : Option Unit) (vc : FeedVC Unit)
        (actions : List (Action Unit)),
      (machine jpeg placeholder).Along (fun _ _ after => Published after)
        (initial vc : State Unit Unit) actions := by
  intro all
  have along := all some none (.cleared none)
    ([.editCaption "A walk", .pickImage (some ()), .postBtnTapped, .postBtnTapped,
      .uploadSucceeded 0 "gs://first" "one"] ++ [.uploadSucceeded 1 "gs://second" "two"])
  obtain ⟨before, _, published⟩ := along.executed (rfl : _ = some _)
  have last := (List.forall₂_cons.mp (List.forall₂_cons.mp published.records).2).1
  have same := (publishes_iff _ _ _ _ _ (by decide)).mp last
  exact absurd same (by decide)

end Publishing

end MyFundi
