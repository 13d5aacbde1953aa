import Concurrente.Common.Splitting
import Concurrente.WebServer.WebApp.CalcResponse
import Concurrente.WebServer.WebApp.HomeWebApp

/-!
# The markup of an answer

The answer to a request shows the texts that are no numbers as the client
wrote them, after decoding.  A rule says which of them may stand for each other
in two requests, and the pages have the same markup for every such pair of
requests exactly if the rule keeps the markup characters of the texts.
-/

namespace Concurrente.WebServer

/-! ## The page -/

namespace CalcApp

/-- `CalcWebApp::title`. -/
def title : CalcApp → Text
  | .fact => "Prime Factorization".toList
  | .goldbach => "Goldbach sums".toList

/-- `createConcurrentData`: the body of the response so far, and the queries.
Without queries the response is formatted at once. -/
def createConcurrentData (app : CalcApp) (httpUri : Text) :
    Checked (Text × List Int64) :=
  let queries := parseRequest httpUri []
  if queries.isEmpty then do
    let answer ← app.formatResponse httpUri []
    return (serveHeader app.title ++ answer, queries)
  else return (serveHeader app.title, queries)

/-- The bodies of the responses to a URI.  Queries are processed before the
response is formatted. -/
inductive Answers (app : CalcApp) (httpUri : Text) : Text → Prop
  | atOnce {body : Text}
      (created : app.createConcurrentData httpUri = .ok (body, [])) :
      app.Answers httpUri body
  | later {header answer : Text} {queries : List Int64} {results : List (List Int64)}
      (created : app.createConcurrentData httpUri = .ok (header, queries))
      (some : queries ≠ [])
      (computed : List.Forall₂ (fun query result => app.processQuery query = .ok result)
        queries results)
      (formatted : app.formatResponse httpUri results = .ok answer) :
      app.Answers httpUri (header ++ answer)

end CalcApp

/-- The markup characters of a text. -/
def marks (text : Text) : Text := text.filter fun c => c = '<' ∨ c = '>'

/-- Texts with the same markup characters in the same order. -/
def SameMarks (text text' : Text) : Prop := marks text = marks text'

/-- The text is not a number as a whole. -/
def Invalid (text : Text) : Prop := ¬ ∃ value, IsLiteral text value

/-- Tokens that may stand at one place: the same number, or two invalid texts
that the rule lets a client exchange. -/
def Exchanged (rule : Text → Text → Prop) (token token' : Text) : Prop :=
  (∃ value, IsLiteral token value ∧ IsLiteral token' value) ∨
    Invalid token ∧ Invalid token' ∧ rule token token'

/-- A text that can be a token of a URI and is invalid. -/
structure InvalidToken (token : Text) : Prop where
  nonempty : token ≠ []
  noComma : ',' ∉ token
  invalid : Invalid token

/-- URIs that an application accepts and whose tokens only differ in invalid texts
and in the notation of numbers. -/
structure CalcApp.Corresponds (app : CalcApp) (rule : Text → Text → Prop)
    (httpUri httpUri' : Text) : Prop where
  accepted : app.canHandle httpUri = true
  accepted' : app.canHandle httpUri' = true
  tokens : List.Forall₂ (Exchanged rule) (valueTokens (decodeURI httpUri))
    (valueTokens (decodeURI httpUri'))

/-! ## Marks -/

@[simp] theorem marks_append (text text' : Text) :
    marks (text ++ text') = marks text ++ marks text' :=
  List.filter_append ..

theorem sameMarks_between {text text' : Text} (before after : Text) :
    SameMarks (before ++ text ++ after) (before ++ text' ++ after) ↔
      SameMarks text text' := by
  simp [SameMarks]

/-- Only the text of the token itself differs in the items of invalid tokens. -/
theorem sameMarks_invalidItem {token token' : Text} :
    SameMarks (invalidItem token) (invalidItem token') ↔ SameMarks token token' := by
  have shape (text : Text) : invalidItem text =
      ("        <div class='number-result'>\n".toList ++
        "          <span class='number-value'>".toList) ++ text ++
        ("</span>".toList ++ (" = \n".toList ++
          ("          <span class='factorization'>".toList ++
            ("<span class='err'>Invalid number</span>".toList ++
              ("          </span>\n".toList ++ "        </div>\n".toList))))) := by
    repeat rw [← List.append_assoc]
    rfl
  rw [shape, shape]
  exact sameMarks_between _ _

/-! ## Answers -/

namespace CalcApp

section Answer

variable {app : CalcApp} {httpUri body : Text}

theorem createConcurrentData_of_nil (none : parseRequest httpUri [] = []) :
    app.createConcurrentData httpUri = (app.formatResponse httpUri []).map
      fun answer => (serveHeader app.title ++ answer, []) := by
  rw [createConcurrentData, none, if_pos List.isEmpty_nil]
  cases app.formatResponse httpUri [] with
  | error fault => rfl
  | ok answer => rfl

theorem createConcurrentData_of_ne_nil (some : parseRequest httpUri [] ≠ []) :
    app.createConcurrentData httpUri =
      .ok (serveHeader app.title, parseRequest httpUri []) := by
  rw [createConcurrentData, if_neg (by simp [some])]
  rfl

/-- The answer is the header of the page and the formatted response. -/
theorem Answers.exists_results (answers : app.Answers httpUri body) :
    ∃ results answer,
      List.Forall₂ (fun query result => app.processQuery query = .ok result)
        (parseRequest httpUri []) results ∧
      app.formatResponse httpUri results = .ok answer ∧
      body = serveHeader app.title ++ answer := by
  by_cases none : parseRequest httpUri [] = []
  · have created := app.createConcurrentData_of_nil none
    cases formatted : app.formatResponse httpUri [] with
    | error fault =>
        rw [formatted] at created
        cases answers with
        | atOnce created' => exact absurd (created.symm.trans created') (by simp [Except.map])
        | later created' => exact absurd (created.symm.trans created') (by simp [Except.map])
    | ok answer =>
        rw [formatted] at created
        refine ⟨[], answer, by rw [none]; exact .nil, formatted, ?_⟩
        cases answers with
        | atOnce created' =>
            exact (Prod.mk.inj (Except.ok.inj (created.symm.trans created'))).1.symm
        | later created' some =>
            exact absurd (Prod.mk.inj (Except.ok.inj (created.symm.trans created'))).2.symm
              some
  · have created := app.createConcurrentData_of_ne_nil none
    cases answers with
    | atOnce created' =>
        exact absurd (Prod.mk.inj (Except.ok.inj (created.symm.trans created'))).2 none
    | later created' some computed formatted =>
        obtain ⟨rfl, rfl⟩ := Prod.mk.inj (Except.ok.inj (created.symm.trans created'))
        exact ⟨_, _, computed, formatted, rfl⟩

/-- An answer has one item for each token. -/
theorem Answers.exists_items (answers : app.Answers httpUri body)
    (accepted : app.canHandle httpUri = true) :
    ∃ items, body = serveHeader app.title ++
        (responseHead ++ items.flatten ++ responseTail) ∧
      List.Forall₂ app.ItemFor (valueTokens (decodeURI httpUri)) items := by
  obtain ⟨results, answer, computed, formatted, rfl⟩ := answers.exists_results
  rw [parseRequest, List.nil_append, requestTexts_of_canHandle accepted] at computed
  obtain ⟨items, shown, each⟩ := formatItems_eq _ 0 computed
  rw [formatResponse, getURIValues_of_canHandle accepted, shown, ok_bind] at formatted
  refine ⟨items, ?_, each⟩
  rw [← Except.ok.inj formatted]

end Answer

/-! ## Two answers -/

section TwoAnswers

variable {app : CalcApp} {token token' item item' : Text}

theorem ItemFor.eq_of_literal {value : Int64} (literal : IsLiteral token value)
    (literal' : IsLiteral token' value) (itemFor : app.ItemFor token item)
    (itemFor' : app.ItemFor token' item') : item = item' := by
  obtain ⟨_, result, run, built⟩ := itemFor.valid value literal
  obtain ⟨_, result', run', built'⟩ := itemFor'.valid value literal'
  obtain rfl := Except.ok.inj (run.symm.trans run')
  exact Except.ok.inj (built.symm.trans built')

theorem ItemFor.sameMarks_iff_of_invalid (invalid : Invalid token)
    (invalid' : Invalid token') (itemFor : app.ItemFor token item)
    (itemFor' : app.ItemFor token' item') :
    SameMarks item item' ↔ SameMarks token token' := by
  rw [itemFor.invalid invalid, itemFor'.invalid invalid']
  exact sameMarks_invalidItem

theorem ItemFor.sameMarks (exchanged : Exchanged SameMarks token token')
    (itemFor : app.ItemFor token item) (itemFor' : app.ItemFor token' item') :
    SameMarks item item' := by
  rcases exchanged with ⟨value, literal, literal'⟩ | ⟨invalid, invalid', same⟩
  · obtain rfl := itemFor.eq_of_literal literal literal' itemFor'
    rfl
  · exact (itemFor.sameMarks_iff_of_invalid invalid invalid' itemFor').mpr same

/-- Exchanging texts with the same marks keeps the marks of all items. -/
theorem sameMarks_items {tokens tokens' items items' : List Text}
    (exchanged : List.Forall₂ (Exchanged SameMarks) tokens tokens')
    (each : List.Forall₂ app.ItemFor tokens items)
    (each' : List.Forall₂ app.ItemFor tokens' items') :
    SameMarks items.flatten items'.flatten := by
  induction exchanged generalizing items items' with
  | nil =>
      cases each
      cases each'
      rfl
  | cons exchanged _ ih =>
      cases each with
      | cons itemFor each =>
          cases each' with
          | cons itemFor' each' =>
              have first := itemFor.sameMarks exchanged itemFor'
              have later := ih each each'
              simp only [SameMarks, List.flatten_cons, marks_append] at *
              rw [first, later]

/-- Where the tokens have the same marks at all other places, the items have
the same marks exactly if the two tokens at this place do. -/
theorem sameMarks_items_iff {before before' after after' items items' : List Text}
    (exchanged : List.Forall₂ (Exchanged SameMarks) before before')
    (later : List.Forall₂ (Exchanged SameMarks) after after')
    (invalid : Invalid token) (invalid' : Invalid token')
    (each : List.Forall₂ app.ItemFor (before ++ token :: after) items)
    (each' : List.Forall₂ app.ItemFor (before' ++ token' :: after') items') :
    SameMarks items.flatten items'.flatten ↔ SameMarks token token' := by
  induction exchanged generalizing items items' with
  | nil =>
      obtain ⟨item, items, itemFor, rest, rfl⟩ := List.forall₂_cons_left_iff.mp each
      obtain ⟨item', items', itemFor', rest', rfl⟩ := List.forall₂_cons_left_iff.mp each'
      have behind := sameMarks_items later rest rest'
      rw [← itemFor.sameMarks_iff_of_invalid invalid invalid' itemFor']
      simp only [SameMarks, List.flatten_cons, marks_append] at *
      rw [behind, List.append_left_inj]
  | cons exchanged _ ih =>
      obtain ⟨item, items, itemFor, rest, rfl⟩ := List.forall₂_cons_left_iff.mp each
      obtain ⟨item', items', itemFor', rest', rfl⟩ := List.forall₂_cons_left_iff.mp each'
      have first := itemFor.sameMarks exchanged itemFor'
      rw [← ih rest rest']
      simp only [SameMarks, List.flatten_cons, marks_append] at *
      rw [first, List.append_right_inj]

theorem sameMarks_page {items items' : List Text} :
    SameMarks (serveHeader app.title ++ (responseHead ++ items.flatten ++ responseTail))
        (serveHeader app.title ++ (responseHead ++ items'.flatten ++ responseTail)) ↔
      SameMarks items.flatten items'.flatten := by
  simp [SameMarks]

end TwoAnswers

section TwoUris

variable {app : CalcApp} {httpUri httpUri' body body' : Text}
  (accepted : app.canHandle httpUri = true)
  (accepted' : app.canHandle httpUri' = true)
  (answers : app.Answers httpUri body) (answers' : app.Answers httpUri' body')

include accepted accepted' answers answers'

theorem sameMarks_of_exchanged
    (exchanged : List.Forall₂ (Exchanged SameMarks) (valueTokens (decodeURI httpUri))
      (valueTokens (decodeURI httpUri'))) : SameMarks body body' := by
  obtain ⟨items, rfl, each⟩ := answers.exists_items accepted
  obtain ⟨items', rfl, each'⟩ := answers'.exists_items accepted'
  exact sameMarks_page.mpr (sameMarks_items exchanged each each')

/-- Two pages with one exchanged text have the same markup exactly if the text
and the one in its place do. -/
theorem sameMarks_iff_of_one_place {before before' after after' : List Text}
    {token token' : Text} (invalid : Invalid token) (invalid' : Invalid token')
    (tokens : valueTokens (decodeURI httpUri) = before ++ token :: after)
    (tokens' : valueTokens (decodeURI httpUri') = before' ++ token' :: after')
    (exchanged : List.Forall₂ (Exchanged SameMarks) before before')
    (later : List.Forall₂ (Exchanged SameMarks) after after') :
    SameMarks body body' ↔ SameMarks token token' := by
  obtain ⟨items, rfl, each⟩ := answers.exists_items accepted
  obtain ⟨items', rfl, each'⟩ := answers'.exists_items accepted'
  rw [tokens] at each
  rw [tokens'] at each'
  rw [sameMarks_page]
  exact sameMarks_items_iff exchanged later invalid invalid' each each'

end TwoUris

/-! ## URIs of one token -/

theorem mem_valueTokens {uri token : Text} (member : token ∈ valueTokens uri) :
    token ≠ [] ∧ ',' ∉ token := by
  obtain ⟨piece, nonempty⟩ := List.mem_filter.mp member
  exact ⟨by simpa using nonempty, not_mem_of_mem_splitOn piece⟩

theorem exists_answer {app : CalcApp} {httpUri : Text}
    (accepted : app.canHandle httpUri = true) (none : parseRequest httpUri [] = []) :
    ∃ body, app.Answers httpUri body := by
  have computed : List.Forall₂ (fun query result => app.processQuery query = .ok result)
      (parseRequest httpUri []) [] := by
    rw [none]
    exact .nil
  rw [parseRequest, List.nil_append, requestTexts_of_canHandle accepted] at computed
  obtain ⟨items, shown, _⟩ := formatItems_eq _ 0 computed
  have created := app.createConcurrentData_of_nil none
  rw [formatResponse, getURIValues_of_canHandle accepted, shown, ok_bind] at created
  exact ⟨_, .atOnce created⟩

theorem parseRequest_of_invalid {httpUri token : Text} (texts : requestTexts httpUri = [token])
    (invalid : Invalid token) : parseRequest httpUri [] = [] := by
  rw [parseRequest, texts]
  cases converted : convertNumber token with
  | error error => simp [converted, Except.toOption]
  | ok value => exact absurd ⟨value, convertNumber_eq_ok_iff.mp converted⟩ invalid

/-- Every invalid token is asked for by some URI, and answered. -/
theorem exists_uri_of_invalidToken (app : CalcApp) {token : Text}
    (invalid : InvalidToken token) :
    ∃ httpUri body, app.canHandle httpUri = true ∧
      valueTokens (decodeURI httpUri) = [token] ∧ app.Answers httpUri body := by
  obtain ⟨encoded, encoding⟩ := exists_encoding token
  have plain : '%' ∉ app.appPrefix ++ "?number=".toList ∧
      '+' ∉ app.appPrefix ++ "?number=".toList := by
    cases app <;> decide
  have decoded : decodeURI (app.appPrefix ++ "?number=".toList ++ encoded) =
      app.appPrefix ++ "?number".toList ++ '=' :: token := by
    rw [decodeURI_append plain.1 plain.2, encoding.decodeURI_eq]
    simp
  have absent : '=' ∉ app.appPrefix ++ "?number".toList := by
    cases app <;> decide
  have accepted : app.canHandle (app.appPrefix ++ "?number=".toList ++ encoded) = true := by
    rw [List.append_assoc]
    exact List.isPrefixOf_iff_prefix.mpr (List.prefix_append _ _)
  have texts : requestTexts (app.appPrefix ++ "?number=".toList ++ encoded) = [token] := by
    rw [requestTexts_of_equals decoded absent, List.splitOn_eq_singleton invalid.noComma]
    simp [invalid.nonempty]
  obtain ⟨body, answers⟩ :=
    exists_answer accepted (parseRequest_of_invalid texts invalid.invalid)
  refine ⟨_, body, accepted, ?_, answers⟩
  rw [← requestTexts_of_canHandle accepted, texts]

end CalcApp

/-- The pages of corresponding URIs have the same markup exactly if the rule
only exchanges tokens with the same markup characters. -/
theorem answers_sameMarks_iff (app : CalcApp) (rule : Text → Text → Prop) :
    (∀ httpUri httpUri' body body', app.Corresponds rule httpUri httpUri' →
        app.Answers httpUri body → app.Answers httpUri' body' → SameMarks body body') ↔
      ∀ token token', InvalidToken token → InvalidToken token' → rule token token' →
        SameMarks token token' := by
  constructor
  · intro independent token token' invalid invalid' allowed
    obtain ⟨httpUri, body, accepted, tokens, answers⟩ :=
      app.exists_uri_of_invalidToken invalid
    obtain ⟨httpUri', body', accepted', tokens', answers'⟩ :=
      app.exists_uri_of_invalidToken invalid'
    have exchanged : List.Forall₂ (Exchanged rule) [token] [token'] :=
      .cons (.inr ⟨invalid.invalid, invalid'.invalid, allowed⟩) .nil
    have corresponds : app.Corresponds rule httpUri httpUri' :=
      ⟨accepted, accepted', by rw [tokens, tokens']; exact exchanged⟩
    have shape : valueTokens (decodeURI httpUri) = [] ++ token :: [] := tokens
    have shape' : valueTokens (decodeURI httpUri') = [] ++ token' :: [] := tokens'
    rw [← CalcApp.sameMarks_iff_of_one_place accepted accepted' answers answers'
      invalid.invalid invalid'.invalid shape shape' .nil .nil]
    exact independent _ _ _ _ corresponds answers answers'
  · intro keeps httpUri httpUri' body body' corresponds answers answers'
    apply CalcApp.sameMarks_of_exchanged corresponds.accepted corresponds.accepted'
      answers answers'
    obtain ⟨lengths, each⟩ := List.forall₂_iff_zip.mp corresponds.tokens
    refine List.forall₂_iff_zip.mpr ⟨lengths, ?_⟩
    intro token token' pair
    obtain ⟨member, member'⟩ := List.of_mem_zip pair
    rcases each pair with literal | ⟨invalid, invalid', allowed⟩
    · exact .inl literal
    · obtain ⟨nonempty, noComma⟩ := CalcApp.mem_valueTokens member
      obtain ⟨nonempty', noComma'⟩ := CalcApp.mem_valueTokens member'
      exact .inr ⟨invalid, invalid', keeps _ _ ⟨nonempty, noComma, invalid⟩
        ⟨nonempty', noComma', invalid'⟩ allowed⟩

theorem invalid_of_convertNumber {text : Text}
    (converted : (convertNumber text).toOption = none) : Invalid text := by
  rintro ⟨value, literal⟩
  rw [convertNumber_eq_ok_iff.mpr literal] at converted
  contradiction

/-- The URI of a request for a word, and the one with the word in a tag. -/
def wordUri : Text := "/fact?number=b".toList

def tagUri : Text := "/fact?number=%3Cb%3E".toList

/-- An escaped tag of a client stands in the page as a tag. -/
theorem answers_add_marks :
    CalcApp.fact.Corresponds (fun _ _ => True) wordUri tagUri ∧
      ∃ body body', CalcApp.fact.Answers wordUri body ∧
        CalcApp.fact.Answers tagUri body' ∧ ¬ SameMarks body body' := by
  have accepted : CalcApp.fact.canHandle wordUri = true := by decide
  have accepted' : CalcApp.fact.canHandle tagUri = true := by decide
  have tokens : valueTokens (decodeURI wordUri) = [] ++ ['b'] :: [] := by decide
  have tokens' : valueTokens (decodeURI tagUri) = [] ++ ['<', 'b', '>'] :: [] := by
    decide
  have invalid : Invalid ['b'] := invalid_of_convertNumber (by decide)
  have invalid' : Invalid ['<', 'b', '>'] := invalid_of_convertNumber (by decide)
  have texts := (requestTexts_of_canHandle accepted).trans tokens
  have texts' := (requestTexts_of_canHandle accepted').trans tokens'
  obtain ⟨body, answers⟩ := CalcApp.exists_answer accepted
    (CalcApp.parseRequest_of_invalid texts invalid)
  obtain ⟨body', answers'⟩ := CalcApp.exists_answer accepted'
    (CalcApp.parseRequest_of_invalid texts' invalid')
  refine ⟨⟨accepted, accepted', ?_⟩, body, body', answers, answers', ?_⟩
  · rw [tokens, tokens']
    exact .cons (.inr ⟨invalid, invalid', trivial⟩) .nil
  · rw [CalcApp.sameMarks_iff_of_one_place accepted accepted' answers answers'
      invalid invalid' tokens tokens' .nil .nil]
    unfold SameMarks
    decide

end Concurrente.WebServer
