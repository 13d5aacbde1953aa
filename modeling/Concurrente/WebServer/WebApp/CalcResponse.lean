import Concurrente.WebServer.WebApp.GoldbachData
import Concurrente.WebServer.WebApp.PrimeFactData
import Concurrente.WebServer.WebApp.RequestNumbers

/-!
# The response to a list of numbers

`CalcData::formatResponse` decodes the URI a second time and walks over its
texts, with an index of its own into the results of the valid ones.
-/

namespace Concurrente.WebServer

namespace CalcApp

/-- `processQuery` of the data of an application, on an empty result. -/
def processQuery (app : CalcApp) (query : Int64) : Checked (List Int64) :=
  match app with
  | .fact => PrimeFactData.processQuery query []
  | .goldbach => GoldbachData.processQuery query []

/-- `buildResult` of the data of an application. -/
def buildResult (app : CalcApp) (value : Int64) (result : List Int64) : Checked Text :=
  match app with
  | .fact => .ok (PrimeFactData.buildResult value result)
  | .goldbach => GoldbachData.buildResult value result

end CalcApp

/-- `CalcData::getURIValues`. -/
def getURIValues (httpUri : Text) : List Text :=
  let uri := decodeURI httpUri
  match find ['='] uri with
  | some pos => split (substr uri (pos + 1)) [','] true
  | none =>
      match rfind '/' uri with
      | some pos => split (substr uri (pos + 1)) [','] true
      | none => []

/-- What the handler of `formatResponse` shows for a text that is no number. -/
def invalidItem (text : Text) : Text :=
  numberHead text ++ " = \n".toList ++
    "          <span class='factorization'>".toList ++
    "<span class='err'>Invalid number</span>".toList ++
    "          </span>\n".toList ++ "        </div>\n".toList

/-- What stands in front of the items. -/
def responseHead : Text :=
  "    <div class='results-container'>\n".toList ++
    "      <div class='result-item'>\n".toList

/-- What stands behind the items. -/
def responseTail : Text :=
  "      </div>\n".toList ++
    "      <a href='/' class='back-button'>Back</a>\n".toList ++
    "    </div>\n".toList ++ "  </div>\n".toList ++ "</body>\n".toList ++
    "</html>\n".toList

namespace CalcApp

/-- The loop of `formatResponse`, entered with an index into the results. -/
def formatItems (app : CalcApp) (results : List (List Int64)) :
    List Text → Nat → Checked Text
  | [], _ => .ok []
  | text :: texts, resultsIndex =>
      match convertNumber text with
      | .error _ =>
          (app.formatItems results texts resultsIndex).map (invalidItem text ++ ·)
      | .ok value =>
          match results[resultsIndex]? with
          | none => .error .outOfRange
          | some result => do
              let item ← app.buildResult value result
              let later ← app.formatItems results texts (resultsIndex + 1)
              return item ++ later

/-- `CalcData::formatResponse`: what it adds to the body of the response. -/
def formatResponse (app : CalcApp) (httpUri : Text) (results : List (List Int64)) :
    Checked Text := do
  let items ← app.formatItems results (getURIValues httpUri) 0
  return responseHead ++ items ++ responseTail

end CalcApp

/-! ## The texts of a request -/

/-- The list of values in a decoded URI: what follows the first equals sign,
or else the last slash. -/
def valueList (uri : Text) : Text :=
  if '=' ∈ uri then (uri.dropWhile (· ≠ '=')).tail
  else (uri.reverse.takeWhile (· ≠ '/')).reverse

/-- The tokens of a decoded URI between commas, without the empty ones. -/
def valueTokens (uri : Text) : List Text :=
  ((valueList uri).splitOn ',').filter fun token => !token.isEmpty

theorem slash_mem_of_canHandle {app : CalcApp} {httpUri : Text}
    (accepted : app.canHandle httpUri = true) : '/' ∈ decodeURI httpUri := by
  obtain ⟨rest, rfl⟩ := List.isPrefixOf_iff_prefix.mp accepted
  have plain : '%' ∉ app.appPrefix ∧ '+' ∉ app.appPrefix ∧ '/' ∈ app.appPrefix := by
    cases app <;> decide
  rw [decodeURI_append plain.1 plain.2.1]
  exact List.mem_append_left _ plain.2.2

/-- The last slash of a text. -/
theorem exists_last_slash {uri : Text} (member : '/' ∈ uri) :
    ∃ before after, uri = before ++ '/' :: after ∧ '/' ∉ after := by
  obtain ⟨after, before, shape, absent⟩ :=
    List.eq_append_cons_of_mem (List.mem_reverse.mpr member)
  refine ⟨before.reverse, after.reverse, ?_, by simpa using absent⟩
  rw [← List.reverse_reverse uri, shape]
  simp

/-- Where both walks find the start of the values. -/
theorem valueList_cases {uri : Text} (slash : '/' ∈ uri) :
    (∃ pos, find ['='] uri = some pos ∧ substr uri (pos + 1) = valueList uri) ∨
      find ['='] uri = none ∧
        ∃ pos, rfind '/' uri = some pos ∧ substr uri (pos + 1) = valueList uri := by
  by_cases equals : '=' ∈ uri
  · obtain ⟨before, values, rfl, absent⟩ := List.eq_append_cons_of_mem equals
    have skipped : (before ++ '=' :: values).dropWhile (· ≠ '=') = '=' :: values := by
      rw [List.dropWhile_append_of_pos]
      · simp
      · intro c member
        simp only [ne_eq, decide_not, Bool.not_eq_true', decide_eq_false_iff_not]
        rintro rfl
        exact absent member
    refine .inl ⟨before.length, find_char_append values absent, ?_⟩
    rw [valueList, if_pos equals, skipped, substr, List.drop_append]
    simp
  · obtain ⟨before, values, rfl, absent⟩ := exists_last_slash slash
    refine .inr ⟨find_char_of_not_mem equals, before.length,
      rfind_append before absent, ?_⟩
    have taken : (before ++ '/' :: values).reverse.takeWhile (· ≠ '/') =
        values.reverse := by
      rw [List.reverse_append, List.reverse_cons, List.append_assoc,
        List.takeWhile_append_of_pos]
      · simp
      · intro c member
        simp only [ne_eq, decide_not, Bool.not_eq_true', decide_eq_false_iff_not]
        rintro rfl
        exact absent (List.mem_reverse.mp member)
    rw [valueList, if_neg equals, taken, List.reverse_reverse, substr, List.drop_append]
    simp

theorem split_valueList (uri : Text) :
    split (valueList uri) [','] true = valueTokens uri := by
  rw [split_trim, split_char, valueTokens]

section Accepted

variable {app : CalcApp} {httpUri : Text} (accepted : app.canHandle httpUri = true)

include accepted

theorem getURIValues_of_canHandle :
    getURIValues httpUri = valueTokens (decodeURI httpUri) := by
  rw [← split_valueList, getURIValues]
  rcases valueList_cases (slash_mem_of_canHandle accepted) with
    ⟨pos, found, values⟩ | ⟨absent, pos, found, values⟩
  · simp only [found, values]
  · simp only [absent, found, values]

theorem requestTexts_of_canHandle :
    requestTexts httpUri = valueTokens (decodeURI httpUri) := by
  rw [← split_valueList, requestTexts]
  rcases valueList_cases (slash_mem_of_canHandle accepted) with
    ⟨pos, found, values⟩ | ⟨absent, pos, found, values⟩
  · simp only [found, values]
  · simp only [absent, found, values]

end Accepted

/-! ## The items of a response -/

/-- The item reports an invalid number. -/
def MarkedInvalid (item : Text) : Prop := "Invalid number".toList <:+: item

/-- The item of a token: the invalid number, or the result computed for its
value. -/
structure CalcApp.ItemFor (app : CalcApp) (token item : Text) : Prop where
  invalid : (¬ ∃ value, IsLiteral token value) → item = invalidItem token
  valid : ∀ value, IsLiteral token value →
    numberHead (longToString value) <+: item ∧
      ∃ result, app.processQuery value = .ok result ∧
        app.buildResult value result = .ok item

theorem numberHead_prefix_fact (value : Int64) (result : List Int64) :
    numberHead (longToString value) <+: PrimeFactData.buildResult value result := by
  unfold PrimeFactData.buildResult
  simp only [List.append_assoc]
  exact List.prefix_append _ _

/-- The result of a query that completes is shown. -/
theorem exists_buildResult {app : CalcApp} {value : Int64} {result : List Int64}
    (run : app.processQuery value = .ok result) :
    ∃ item, app.buildResult value result = .ok item ∧
      numberHead (longToString value) <+: item := by
  cases app with
  | fact => exact ⟨_, rfl, numberHead_prefix_fact value result⟩
  | goldbach =>
      obtain ⟨count, sums, _, _, built⟩ := GoldbachData.buildResult_eq run
      refine ⟨_, built, ?_⟩
      unfold GoldbachData.countItem
      simp only [List.append_assoc]
      exact List.prefix_append _ _

theorem formatItems_eq {app : CalcApp} {results : List (List Int64)}
    (texts : List Text) (resultsIndex : Nat)
    (computed : List.Forall₂ (fun query result => app.processQuery query = .ok result)
      (texts.filterMap fun text => (convertNumber text).toOption)
      (results.drop resultsIndex)) :
    ∃ items, app.formatItems results texts resultsIndex = .ok items.flatten ∧
      List.Forall₂ app.ItemFor texts items := by
  induction texts generalizing resultsIndex with
  | nil => exact ⟨[], rfl, .nil⟩
  | cons text texts ih =>
      rw [List.filterMap_cons] at computed
      cases converted : convertNumber text with
      | error error =>
          have notLiteral : ¬ ∃ value, IsLiteral text value := by
            rintro ⟨value, literal⟩
            rw [convertNumber_eq_ok_iff.mpr literal] at converted
            contradiction
          rw [converted] at computed
          obtain ⟨items, formatted, each⟩ := ih resultsIndex computed
          refine ⟨invalidItem text :: items, ?_, .cons ⟨fun _ => rfl, ?_⟩ each⟩
          · simp only [CalcApp.formatItems, converted, formatted]
            rfl
          · intro value literal
            exact (notLiteral ⟨value, literal⟩).elim
      | ok value =>
          have literal := convertNumber_eq_ok_iff.mp converted
          rw [converted] at computed
          obtain ⟨result, results', run, rest, split⟩ :=
            List.forall₂_cons_left_iff.mp computed
          have here : results[resultsIndex]? = some result := by
            have first := congrArg List.head? split
            rwa [List.head?_drop] at first
          have later : results.drop (resultsIndex + 1) = results' := by
            have tail := congrArg List.tail split
            rwa [List.tail_drop] at tail
          obtain ⟨items, formatted, each⟩ := ih (resultsIndex + 1) (later ▸ rest)
          obtain ⟨item, built, head⟩ := exists_buildResult run
          refine ⟨item :: items, ?_, .cons ⟨?_, ?_⟩ each⟩
          · simp only [CalcApp.formatItems, converted, here, built, formatted]
            rfl
          · intro notLiteral
            exact (notLiteral ⟨value, literal⟩).elim
          · intro value' literal'
            rw [← convertNumber_eq_ok_iff, converted] at literal'
            obtain rfl := Except.ok.inj literal'
            exact ⟨head, result, run, built⟩

/-! ## Marks of invalid numbers -/

theorem upperI_not_mem_longToString (value : Int64) : 'I' ∉ longToString value :=
  not_mem_longToString (by decide) (by decide)

theorem upperI_not_mem_numberHead (value : Int64) :
    'I' ∉ numberHead (longToString value) := by
  unfold numberHead
  repeat' apply List.not_mem_append
  · decide
  · decide
  · exact upperI_not_mem_longToString value
  · decide

theorem upperI_not_mem_factorItems (result : List Int64) :
    'I' ∉ PrimeFactData.factorItems result := by
  fun_induction PrimeFactData.factorItems result with
  | case1 prime exponent rest ih =>
      repeat' apply List.not_mem_append
      · decide
      · exact upperI_not_mem_longToString prime
      · decide
      · split
        · repeat' apply List.not_mem_append
          · decide
          · exact upperI_not_mem_longToString exponent
          · decide
        · simp
      · split <;> simp
      · exact ih
  | case2 => simp

theorem upperI_not_mem_operandTexts (operands : List Int64) :
    'I' ∉ GoldbachData.operandTexts operands := by
  fun_induction GoldbachData.operandTexts operands with
  | case1 => simp
  | case2 operand => exact upperI_not_mem_longToString operand
  | case3 operand operands _ ih =>
      repeat' apply List.not_mem_append
      · exact upperI_not_mem_longToString operand
      · decide
      · exact ih

theorem upperI_not_mem_sumsGrid (sums : List (List Int64)) :
    'I' ∉ GoldbachData.sumsGrid sums := by
  unfold GoldbachData.sumsGrid
  repeat' apply List.not_mem_append
  · decide
  · intro member
    obtain ⟨operands, _, inside⟩ := List.mem_flatMap.mp member
    revert inside
    unfold GoldbachData.sumItem
    repeat' apply List.not_mem_append
    · decide
    · exact upperI_not_mem_operandTexts operands
    · decide
  · decide

theorem upperI_not_mem_countItem (value : Int64) (count : UInt64) :
    'I' ∉ GoldbachData.countItem value count := by
  unfold GoldbachData.countItem
  repeat' with_reducible apply List.not_mem_append
  · exact upperI_not_mem_numberHead value
  · decide
  · decide
  · exact not_mem_unsignedToString (by decide)
  · decide
  · decide

theorem not_markedInvalid {item : Text} (absent : 'I' ∉ item) : ¬ MarkedInvalid item := by
  intro marked
  exact absent (marked.subset (by decide))

theorem MarkedInvalid.append_left {item : Text} (marked : MarkedInvalid item)
    (before : Text) : MarkedInvalid (before ++ item) :=
  marked.trans (List.suffix_append before item).isInfix

theorem MarkedInvalid.append_right {item : Text} (marked : MarkedInvalid item)
    (after : Text) : MarkedInvalid (item ++ after) :=
  marked.trans (List.prefix_append item after).isInfix

theorem markedInvalid_span :
    MarkedInvalid "<span class='err'>Invalid number</span>".toList := by
  unfold MarkedInvalid
  decide

theorem markedInvalid_invalidItem (text : Text) : MarkedInvalid (invalidItem text) := by
  unfold invalidItem
  apply MarkedInvalid.append_right
  apply MarkedInvalid.append_right
  apply MarkedInvalid.append_left
  exact markedInvalid_span

/-- A factorization is marked exactly when it is empty. -/
theorem markedInvalid_fact_iff (value : Int64) (result : List Int64) :
    MarkedInvalid (PrimeFactData.buildResult value result) ↔ result.length / 2 = 0 := by
  unfold PrimeFactData.buildResult
  constructor
  · intro marked
    by_contra some
    rw [if_neg some] at marked
    revert marked
    apply not_markedInvalid
    repeat' with_reducible apply List.not_mem_append
    · exact upperI_not_mem_numberHead value
    · decide
    · decide
    · exact upperI_not_mem_factorItems result
    · decide
    · decide
  · intro none
    rw [if_pos none]
    apply MarkedInvalid.append_right
    apply MarkedInvalid.append_right
    apply MarkedInvalid.append_left
    exact markedInvalid_span

theorem not_markedInvalid_goldbach {value : Int64} {result : List Int64} {item : Text}
    (run : GoldbachData.processQuery value [] = .ok result)
    (built : GoldbachData.buildResult value result = .ok item) :
    ¬ MarkedInvalid item := by
  obtain ⟨count, sums, _, _, text⟩ := GoldbachData.buildResult_eq run
  obtain rfl := Except.ok.inj (text.symm.trans built)
  apply not_markedInvalid
  apply List.not_mem_append
  · exact upperI_not_mem_countItem value count
  · split
    · exact upperI_not_mem_sumsGrid sums
    · simp

/-- The values an application answers as invalid numbers: those without a
factorization. -/
def CalcApp.Rejects (app : CalcApp) (value : Int64) : Prop :=
  app = .fact ∧ value.toInt ≤ 1

theorem markedInvalid_iff {app : CalcApp} {value : Int64} {result : List Int64}
    {item : Text} (run : app.processQuery value = .ok result)
    (built : app.buildResult value result = .ok item) :
    MarkedInvalid item ↔ app.Rejects value := by
  cases app with
  | fact =>
      obtain rfl := Except.ok.inj built
      rw [markedInvalid_fact_iff, CalcApp.Rejects]
      by_cases small : value.toInt ≤ 1
      · obtain rfl := Except.ok.inj
          ((PrimeFactData.processQuery_of_le_one small).symm.trans run)
        simp [small]
      · have some := PrimeFactData.length_of_processQuery (by omega) run
        simp only [small, and_false, iff_false]
        omega
  | goldbach =>
      have unmarked := not_markedInvalid_goldbach run built
      simp [CalcApp.Rejects, unmarked]

namespace CalcApp

/-- An item is marked when its token is no literal, or a literal of a value the
application rejects. -/
theorem ItemFor.markedInvalid_iff {app : CalcApp} {token item : Text}
    (itemFor : app.ItemFor token item) :
    MarkedInvalid item ↔
      (¬ ∃ value, IsLiteral token value) ∨
        ∃ value, IsLiteral token value ∧ app.Rejects value := by
  by_cases literal : ∃ value, IsLiteral token value
  · obtain ⟨value, isLiteral⟩ := literal
    obtain ⟨_, result, run, built⟩ := itemFor.valid value isLiteral
    rw [WebServer.markedInvalid_iff run built]
    constructor
    · intro rejected
      exact .inr ⟨value, isLiteral, rejected⟩
    · rintro (none | ⟨other, isOther, rejected⟩)
      · exact (none ⟨value, isLiteral⟩).elim
      · rw [← convertNumber_eq_ok_iff] at isLiteral isOther
        obtain rfl := Except.ok.inj (isLiteral.symm.trans isOther)
        exact rejected
  · rw [itemFor.invalid literal]
    simp [literal, markedInvalid_invalidItem]

/-- Once the results of its queries are there, the response to an accepted URI
has one item for each token, in order: the items of the tokens that are
literals show the result computed for their value, and an invalid number is
reported for the others and for the values the application rejects. -/
theorem formatResponse_aligned {app : CalcApp} {httpUri : Text}
    {results : List (List Int64)} (accepted : app.canHandle httpUri = true)
    (computed : List.Forall₂ (fun query result => app.processQuery query = .ok result)
      (parseRequest httpUri []) results) :
    ∃ items, app.formatResponse httpUri results =
        .ok (responseHead ++ items.flatten ++ responseTail) ∧
      List.Forall₂ (fun token item => app.ItemFor token item ∧
          (MarkedInvalid item ↔ (¬ ∃ value, IsLiteral token value) ∨
            ∃ value, IsLiteral token value ∧ app.Rejects value))
        (valueTokens (decodeURI httpUri)) items := by
  rw [parseRequest, List.nil_append, requestTexts_of_canHandle accepted] at computed
  obtain ⟨items, formatted, each⟩ := formatItems_eq _ 0 computed
  refine ⟨items, ?_, ?_⟩
  · rw [formatResponse, getURIValues_of_canHandle accepted, formatted, ok_bind]
    rfl
  · apply List.Forall₂.imp _ each
    intro token item itemFor
    exact ⟨itemFor, itemFor.markedInvalid_iff⟩

/-- One result for two tokens. -/
theorem formatResponse_aligned_sample :
    ∃ items, CalcApp.fact.formatResponse "/fact/1,x".toList [[]] =
        .ok (responseHead ++ items.flatten ++ responseTail) ∧
      List.Forall₂ (fun token item => CalcApp.fact.ItemFor token item ∧
          (MarkedInvalid item ↔ (¬ ∃ value, IsLiteral token value) ∨
            ∃ value, IsLiteral token value ∧ CalcApp.fact.Rejects value))
        (valueTokens (decodeURI "/fact/1,x".toList)) items := by
  have accepted : CalcApp.fact.canHandle "/fact/1,x".toList = true := by decide
  have queries : parseRequest "/fact/1,x".toList [] = [1] := by
    rw [parseRequest, requestTexts_of_canHandle accepted]
    decide
  apply formatResponse_aligned accepted
  rw [queries]
  exact .cons (PrimeFactData.processQuery_of_le_one (by decide)) .nil

/-- The number one is a complete literal, and its item reports an invalid
number. -/
theorem formatResponse_one :
    IsLiteral "1".toList 1 ∧ parseRequest "/fact/1".toList [] = [1] ∧
      CalcApp.fact.processQuery 1 = .ok [] ∧
      CalcApp.fact.formatResponse "/fact/1".toList [[]] =
        .ok (responseHead ++ [invalidItem "1".toList].flatten ++ responseTail) ∧
      MarkedInvalid (invalidItem "1".toList) := by
  have accepted : CalcApp.fact.canHandle "/fact/1".toList = true := by decide
  have one : convertNumber "1".toList = .ok 1 := by decide
  have tokens : valueTokens (decodeURI "/fact/1".toList) = ["1".toList] := by decide
  refine ⟨convertNumber_eq_ok_iff.mp one, ?_,
    PrimeFactData.processQuery_of_le_one (by decide), ?_, markedInvalid_invalidItem _⟩
  · rw [parseRequest, requestTexts_of_canHandle accepted, tokens]
    decide
  · have printed : longToString 1 = "1".toList := by decide
    have item : PrimeFactData.buildResult 1 [] = invalidItem "1".toList := by
      unfold PrimeFactData.buildResult invalidItem
      rw [printed, if_pos (by decide)]
    rw [formatResponse, getURIValues_of_canHandle accepted, tokens]
    simp only [formatItems, one, List.getElem?_cons_zero, buildResult, item, ok_bind,
      List.flatten_cons, List.flatten_nil]
    rfl

end CalcApp

end Concurrente.WebServer
