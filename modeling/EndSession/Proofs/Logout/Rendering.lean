import EndSession.Logout.Fault
import EndSession.Proofs.Entries
import EndSession.Proofs.Logout.Checks

/-
This file follows an error through all uses of it. Each rendering may name another page about the
error, and the page is all that a use ever changes.
-/

namespace EndSession.Logout

/-- The code point may stand in the description of an error: it is printable ASCII, but neither a
double quote nor a backslash. -/
def IsDescriptive (point : CodePoint) : Prop :=
  (0x20 ≤ point.toNat ∧ point.toNat ≤ 0x21) ∨ (0x23 ≤ point.toNat ∧ point.toNat ≤ 0x5B) ∨
    (0x5D ≤ point.toNat ∧ point.toNat ≤ 0x7E)

/-- A use of an error: its body is read, or it is rendered, perhaps with another page about it. -/
inductive Use where
  | read
  | render (page : Option Text)

/-- What is seen of an error by a use. -/
inductive View where
  | body (pairs : List (String × Option Text))
  | response (response : Response)

/-- The page that a use names. -/
def Use.page? : Use → Option Text
  | read => none
  | render page => given? page

/-- The page that was named last, or the one that the error was created with if none was. -/
def lastPage (uri : Option Text) (uses : List Use) : Option Text :=
  (uses.filterMap Use.page?).getLast?.or (given? uri)

/-- The pairs of the body of an error about a parameter, with a page or without. -/
def bodyWith (kind : Kind) (parameter : Text) (state page : Option Text) :
    List (String × Option Text) :=
  [("error", kind.code?.map Text.ofString), ("error_description", some (describe parameter))] ++
    (page.toList.map fun text => ("error_uri", some text)) ++
    (given? state).toList.map fun text => ("state", some text)

/-- What a use sees of an error about a parameter, with a page or without. -/
def viewWith (kind : Kind) (parameter : Text) (state page : Option Text) : Use → View
  | .read => .body (bodyWith kind parameter state page)
  | .render _ =>
    .response
      { status := 400
        body := bodyWith kind parameter state page
        headers := [("Content-Type", "application/json"), ("Cache-Control", "no-store"),
          ("Pragma", "no-cache")] }

namespace Report

/-- The error after a use. -/
def after (report : Report) : Use → Report
  | .read => report
  | .render page => (report.respond page).1

/-- The error after uses in order. -/
def afterAll (report : Report) (uses : List Use) : Report :=
  uses.foldl after report

/-- What a use sees. -/
def view (report : Report) : Use → View
  | .read => .body report.body
  | .render page => .response (report.respond page).2

/-- What uses see in order. -/
def viewAll (report : Report) : List Use → List View
  | [] => []
  | use :: rest => report.view use :: (report.after use).viewAll rest

end Report

theorem isAllowed_iff (point : CodePoint) : isAllowed point = true ↔ IsDescriptive point := by
  simp [isAllowed, IsDescriptive, or_assoc]

/-- An error is created from its parts. -/
theorem Report.parts_of_create {kind : Kind} {parameter : Value} {uri state : Option Text}
    {report : Report} (created : create kind parameter uri state = .ok report) :
    report.kind = kind ∧ parameter.display = some report.shown ∧ report.uri = uri ∧
      report.state = state := by
  unfold create at created
  split at created
  · cases created
  · rename_i shown displayed
    split at created
    · cases created
      exact ⟨rfl, displayed, rfl, rfl⟩
    · cases created

/-- Every error can be created from its parts. -/
theorem Report.create_parts (report : Report) :
    create report.kind report.parameter report.uri report.state = .ok report := by
  obtain ⟨kind, parameter, shown, uri, state, displayed, allowed⟩ := report
  unfold create
  split
  · rename_i unwritten
    cases displayed.symm.trans unwritten
  · rename_i other displayed'
    cases displayed.symm.trans displayed'
    exact dif_pos allowed

/-- An error about a parameter can be created when its description can be written and holds nothing but
descriptive characters. -/
theorem Report.exists_create_iff (kind : Kind) (parameter : Value) (uri state : Option Text) :
    (∃ report, create kind parameter uri state = .ok report) ↔
      ∃ shown, parameter.display = some shown ∧
        ∀ point ∈ (describe shown).toList, IsDescriptive point := by
  simp only [← isAllowed_iff, ← List.all_eq_true]
  constructor
  · rintro ⟨report, created⟩
    exact ⟨report.shown, (parts_of_create created).2.1, report.allowed⟩
  · rintro ⟨shown, displayed, allowed⟩
    exact ⟨_, create_parts ⟨kind, parameter, shown, uri, state, displayed, allowed⟩⟩

/-- An error cannot be created when its description cannot be written or holds another character. -/
theorem Report.create_eq_error_iff (kind : Kind) (parameter : Value) (uri state : Option Text) :
    (∃ fault, create kind parameter uri state = .error fault) ↔
      parameter.display = none ∨ ∃ shown, parameter.display = some shown ∧
        ∃ point ∈ (describe shown).toList, ¬ IsDescriptive point := by
  have fails_iff : (∃ fault, create kind parameter uri state = .error fault) ↔
      ¬ ∃ report, create kind parameter uri state = .ok report := by
    cases create kind parameter uri state <;> simp
  rw [fails_iff, exists_create_iff]
  cases parameter.display <;> simp

/-- A pair is there when its text is given. -/
theorem Report.optionalPair_eq (name : String) (content : Option Text) :
    optionalPair name content = (given? content).toList.map fun text => (name, some text) := by
  unfold optionalPair
  split
  · rfl
  · split
    · rename_i empty
      rw [empty]
      rfl
    · rename_i text filled
      have given : given? (some text) = some text := (given?_eq_some_iff _ _).mpr ⟨rfl, filled⟩
      rw [given]
      rfl

/-- No description is empty. -/
theorem describe_ne_empty (parameter : Text) : describe parameter ≠ "" := by
  intro empty
  have points := congrArg Text.toList empty
  cases points

/-- The body of an error shows its page, if it is given. -/
theorem Report.body_eq (report : Report) :
    report.body = bodyWith report.kind report.shown report.state (given? report.uri) := by
  have described : given? (some report.description) = some report.description :=
    (given?_eq_some_iff _ _).mpr ⟨rfl, describe_ne_empty _⟩
  simp only [body, bodyWith, optionalPair_eq, described]
  rfl

/-- A page that is given takes the place of the one before. -/
theorem Report.given?_withPage (report : Report) (page : Option Text) :
    given? (report.withPage page).uri = (given? page).or (given? report.uri) := by
  unfold withPage
  split
  · rfl
  · split
    · rename_i empty
      rw [empty]
      rfl
    · rename_i text filled
      have given : given? (some text) = some text :=
        (given?_eq_some_iff _ _).mpr ⟨rfl, filled⟩
      rw [given]
      rfl

/-- The kind, the parameter and the state of an error are not changed by a new page. -/
theorem Report.withPage_parts (report : Report) (page : Option Text) :
    (report.withPage page).kind = report.kind ∧
      (report.withPage page).shown = report.shown ∧
      (report.withPage page).state = report.state := by
  unfold withPage
  split
  · exact ⟨rfl, rfl, rfl⟩
  · split <;> exact ⟨rfl, rfl, rfl⟩

/-- Neither are they by any use. -/
theorem Report.after_parts (report : Report) (use : Use) :
    (report.after use).kind = report.kind ∧ (report.after use).shown = report.shown ∧
      (report.after use).state = report.state := by
  cases use with
  | read => exact ⟨rfl, rfl, rfl⟩
  | render page => exact report.withPage_parts page

/-- A use leaves the page that it names, or the one before. -/
theorem Report.given?_after (report : Report) (use : Use) :
    given? (report.after use).uri = use.page?.or (given? report.uri) := by
  cases use with
  | read => rfl
  | render page => exact report.given?_withPage page

/-- A page that a first use names is overridden by those that later uses name. -/
theorem lastPage_cons (uri : Option Text) (use : Use) (rest : List Use) :
    lastPage uri (use :: rest) =
      ((rest.filterMap Use.page?).getLast?).or (use.page?.or (given? uri)) := by
  unfold lastPage
  cases named : use.page? with
  | none => simp [named]
  | some page =>
      rw [List.filterMap_cons_some named, List.getLast?_cons]
      cases (rest.filterMap Use.page?).getLast? <;> rfl

/-- After any uses an error is what it was, but for its page, which is the one named last. -/
theorem Report.afterAll_parts (report : Report) (uses : List Use) :
    (report.afterAll uses).kind = report.kind ∧
      (report.afterAll uses).shown = report.shown ∧
      (report.afterAll uses).state = report.state ∧
      given? (report.afterAll uses).uri = lastPage report.uri uses := by
  induction uses generalizing report with
  | nil => exact ⟨rfl, rfl, rfl, rfl⟩
  | cons use rest inductionHypothesis =>
      obtain ⟨kind, parameter, state, page⟩ := inductionHypothesis (report.after use)
      obtain ⟨kind', parameter', state'⟩ := report.after_parts use
      refine ⟨kind.trans kind', parameter.trans parameter', state.trans state', ?_⟩
      rw [lastPage_cons, ← report.given?_after use]
      exact page

/-- A use sees the page that is the last one once it has been made. -/
theorem Report.view_eq (report : Report) (use : Use) :
    report.view use = viewWith report.kind report.shown report.state
      (given? (report.after use).uri) use := by
  cases use with
  | read => exact congrArg View.body report.body_eq
  | render page =>
      obtain ⟨kind, parameter, state⟩ := report.withPage_parts page
      have body := (report.withPage page).body_eq
      rw [kind, parameter, state] at body
      simp only [view, respond, body]
      rfl

/-- No name occurs twice in a body. -/
theorem nodup_bodyWith (kind : Kind) (parameter : Text) (state page : Option Text) :
    ((bodyWith kind parameter state page).map Prod.fst).Nodup := by
  unfold bodyWith
  cases page <;> cases given? state <;> simp

/-- So a body says nothing twice. -/
theorem Report.toList_ofList_body (report : Report) :
    (Entries.ofList report.body).toList = report.body := by
  rw [report.body_eq]
  exact Entries.toList_ofList (nodup_bodyWith _ _ _ _)

/-- What a use sees depends on the uses before it alone. -/
theorem Report.getElem?_viewAll (report : Report) (uses : List Use) (index : Nat) :
    (report.viewAll uses)[index]? =
      uses[index]?.map fun use => (report.afterAll (uses.take index)).view use := by
  induction uses generalizing report index with
  | nil => rfl
  | cons use rest inductionHypothesis =>
      cases index with
      | zero => rfl
      | succ index => exact inductionHypothesis (report.after use) index

/-- An error cannot be created when its description cannot be written or holds a character that is not
allowed. Otherwise all uses of it, whatever they are, see the same but for the page, which is the one
named last or else the one that the error was created with. The body of an answer is what is read right
after it, with each name once. No answer is a challenge. -/
theorem views_differ_in_last_page (kind : Kind) (parameter : Value) (uri state : Option Text) :
    ((∃ fault, Report.create kind parameter uri state = .error fault) ↔
      parameter.display = none ∨ ∃ shown, parameter.display = some shown ∧
        ∃ point ∈ (describe shown).toList, ¬ IsDescriptive point) ∧
    ∀ report, Report.create kind parameter uri state = .ok report →
      ∃ shown, parameter.display = some shown ∧ ∀ uses : List Use,
        (report.viewAll uses = uses.mapIdx fun index use =>
          viewWith kind shown state (lastPage uri (uses.take (index + 1))) use) ∧
        (report.afterAll uses).message = kind.shownCode ++ ": " ++ describe shown ∧
        ∀ page, ((report.afterAll uses).respond page).2.body =
            (Entries.ofList ((report.afterAll uses).respond page).1.body).toList ∧
          ∀ header ∈ ((report.afterAll uses).respond page).2.headers,
            header.1.toLower ≠ "www-authenticate" := by
  refine ⟨Report.create_eq_error_iff kind parameter uri state, ?_⟩
  intro report created
  obtain ⟨rfl, displayed, rfl, rfl⟩ := Report.parts_of_create created
  refine ⟨report.shown, displayed, fun uses => ?_⟩
  refine ⟨?_, ?_, ?_⟩
  · apply List.ext_getElem?
    intro index
    rw [report.getElem?_viewAll, List.getElem?_mapIdx]
    cases found : uses[index]? with
    | none => rfl
    | some use =>
        obtain ⟨kind, parameter, state, _⟩ := report.afterAll_parts (uses.take index)
        obtain ⟨_, _, _, page⟩ := report.afterAll_parts (uses.take (index + 1))
        have last : report.afterAll (uses.take (index + 1)) =
            (report.afterAll (uses.take index)).after use := by
          unfold Report.afterAll
          rw [List.take_add_one, found, List.foldl_append]
          rfl
        rw [last] at page
        simp only [Option.map_some, Report.view_eq, kind, parameter, state, page]
  · obtain ⟨kind, parameter, _, _⟩ := report.afterAll_parts uses
    simp only [Report.message, Report.description, kind, parameter]
  · intro page
    constructor
    · exact (Report.toList_ofList_body ((report.afterAll uses).withPage page)).symm
    · change ∀ header ∈ Report.headers, header.1.toLower ≠ "www-authenticate"
      decide +kernel

/-- The error about a hint, with no page about it. -/
def reportOfHint : Report where
  kind := .invalidToken
  parameter := .text "id_token_hint"
  shown := "id_token_hint"
  uri := none
  state := some "state"
  displayed := rfl
  allowed := by decide +kernel

/-- Uses of an error that name two pages, of which the second one is kept. -/
def usesOfTwoPages : List Use :=
  [.read, .render (some "https://provider.test/errors"), .render (some ""), .render none,
    .render (some "https://provider.test/help"), .read]

/-- The body of the error about the hint shows no page at first and the second one at last. -/
theorem reportOfHint_shows_last_page :
    Report.create .invalidToken (.text "id_token_hint") none (some ("state" : Text)) =
        .ok reportOfHint ∧
    ∃ pairs, (reportOfHint.viewAll usesOfTwoPages)[5]? = some (.body pairs) ∧
      pairs = [("error", some ("invalid_token" : Text)),
        ("error_description",
          some ("OpenID Connect 1.0 Logout Request Parameter: id_token_hint" : Text)),
        ("error_uri", some ("https://provider.test/help" : Text)), ("state", some ("state" : Text))] := by
  have created : Report.create .invalidToken (.text "id_token_hint") none (some ("state" : Text)) =
      .ok reportOfHint := reportOfHint.create_parts
  obtain ⟨shown, displayed, views⟩ := (views_differ_in_last_page .invalidToken
    (.text "id_token_hint") none (some ("state" : Text))).2 reportOfHint created
  cases displayed
  refine ⟨created, _, ?_, rfl⟩
  rw [(views usesOfTwoPages).1]
  rfl

end EndSession.Logout
