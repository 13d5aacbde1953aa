import Concurrente.WebServer.WebApp.RequestNumbers

/-!
# The form on the home page

The home page lets the browser check a list of numbers against a pattern
before it is sent.  Here the texts the pattern accepts are compared with the
numbers the server reads from the request.
-/

namespace Concurrente.WebServer

/-! ## Texts the pattern accepts -/

/-- `\s*,\s*` with the white space on either side of the comma. -/
structure Separator where
  before : Text
  after : Text
  blanksBefore : ∀ c ∈ before, isSpace c = true
  blanksAfter : ∀ c ∈ after, isSpace c = true

def Separator.text (separator : Separator) : Text :=
  separator.before ++ ',' :: separator.after

/-- `[+\-]?\d+(\s*,\s*[+\-]?\d+)*`. -/
structure NumberList where
  first : SignedDigits
  others : List (Separator × SignedDigits)

namespace NumberList

def text (list : NumberList) : Text :=
  list.first.text ++
    list.others.flatMap fun other => other.1.text ++ other.2.text

def numbers (list : NumberList) : List SignedDigits :=
  list.first :: list.others.map Prod.snd

def separators (list : NumberList) : List Separator :=
  list.others.map Prod.fst

end NumberList

/-! ## What the browser sends -/

/-- A byte as `application/x-www-form-urlencoded` writes it. -/
def formEncodeChar (c : Char) : Text :=
  if c = ' ' then ['+']
  else if c.isAlphanum || c ∈ "*-._".toList then [c]
  else
    ['%', (Nat.digitChar (c.toNat / 16)).toUpper,
      (Nat.digitChar (c.toNat % 16)).toUpper]

def formEncode (value : Text) : Text := value.flatMap formEncodeChar

/-- The URI of the request when the form of an application is submitted. -/
def CalcApp.formUri (app : CalcApp) (value : Text) : Text :=
  app.appPrefix ++ "?number=".toList ++ formEncode value

theorem encoding_formEncodeChar {c : Char} {text encoded : Text}
    (byte : c.toNat < 256) (rest : Encoding text encoded) :
    Encoding (c :: text) (formEncodeChar c ++ encoded) := by
  unfold formEncodeChar
  split
  next blank =>
    subst blank
    exact .blank rest
  next =>
    split
    next plain =>
      apply Encoding.literal
      · rintro rfl
        simp at plain
      · rintro rfl
        simp at plain
      · exact rest
    next => exact .escape byte (.inr rfl) (.inr rfl) rest

theorem encoding_formEncode {value : Text}
    (bytes : ∀ c ∈ value, c.toNat < 256) :
    Encoding value (formEncode value) := by
  induction value with
  | nil => exact .nil
  | cons c value ih =>
      apply encoding_formEncodeChar
      · exact bytes c List.mem_cons_self
      · apply ih
        intro d member
        exact bytes d (List.mem_cons_of_mem _ member)

theorem decodeURI_formUri (app : CalcApp) {value : Text}
    (bytes : ∀ c ∈ value, c.toNat < 256) :
    decodeURI (app.formUri value) =
      (app.appPrefix ++ "?number".toList) ++ '=' :: value := by
  have encoded : Encoding ((app.appPrefix ++ "?number=".toList) ++ value)
      (app.formUri value) := by
    apply encoding_literals
    · cases app <;> decide
    · cases app <;> decide
    · exact encoding_formEncode bytes
  rw [encoded.decodeURI_eq]
  simp

/-! ## What the server reads -/

namespace NumberList

/-- The texts between the commas, the first one with the white space in front
of it. -/
def paddedFrom (leading : Text) (blanks : ∀ c ∈ leading, isSpace c = true)
    (number : SignedDigits) : List (Separator × SignedDigits) → List PaddedNumber
  | [] => [⟨leading, number, [], blanks, by simp⟩]
  | (separator, next) :: others =>
      ⟨leading, number, separator.before, blanks, separator.blanksBefore⟩ ::
        paddedFrom separator.after separator.blanksAfter next others

def padded (list : NumberList) : List PaddedNumber :=
  paddedFrom [] (by simp) list.first list.others

theorem map_number_paddedFrom (leading : Text)
    (blanks : ∀ c ∈ leading, isSpace c = true) (number : SignedDigits)
    (others : List (Separator × SignedDigits)) :
    (paddedFrom leading blanks number others).map PaddedNumber.number =
      number :: others.map Prod.snd := by
  induction others generalizing leading number with
  | nil => rfl
  | cons other others ih => simp [paddedFrom, ih]

theorem map_trailing_paddedFrom (leading : Text)
    (blanks : ∀ c ∈ leading, isSpace c = true) (number : SignedDigits)
    (others : List (Separator × SignedDigits)) :
    (paddedFrom leading blanks number others).map PaddedNumber.trailing =
      others.map (fun other => other.1.before) ++ [[]] := by
  induction others generalizing leading number with
  | nil => rfl
  | cons other others ih => simp [paddedFrom, ih]

end NumberList

theorem NumberList.splitOn_paddedFrom (leading : Text)
    (blanks : ∀ c ∈ leading, isSpace c = true) (number : SignedDigits)
    (others : List (Separator × SignedDigits)) :
    (leading ++ number.text ++
        others.flatMap fun other => other.1.text ++ other.2.text).splitOn ',' =
      (paddedFrom leading blanks number others).map PaddedNumber.text := by
  induction others generalizing leading number with
  | nil =>
      have absent := PaddedNumber.comma_not_mem ⟨leading, number, [], blanks, by simp⟩
      simp only [PaddedNumber.text, List.append_nil] at absent
      simp [paddedFrom, PaddedNumber.text, List.splitOn_eq_singleton absent]
  | cons other others ih =>
      have absent : ',' ∉ leading ++ number.text ++ other.1.before :=
        PaddedNumber.comma_not_mem
          ⟨leading, number, other.1.before, blanks, other.1.blanksBefore⟩
      have later := ih other.1.after other.1.blanksAfter other.2
      have shape : leading ++ number.text ++
          (other :: others).flatMap (fun other => other.1.text ++ other.2.text) =
          (leading ++ number.text ++ other.1.before) ++ ',' ::
            (other.1.after ++ other.2.text ++
              others.flatMap fun other => other.1.text ++ other.2.text) := by
        simp [Separator.text]
      rw [shape, List.splitOn_append_cons_self_of_not_mem absent, later]
      rfl

/-- No text between two commas is empty, so trimming drops none. -/
theorem NumberList.requestTexts_formUri (app : CalcApp) (list : NumberList)
    (bytes : ∀ c ∈ list.text, c.toNat < 256) :
    requestTexts (app.formUri list.text) =
      list.padded.map PaddedNumber.text := by
  have absent : '=' ∉ app.appPrefix ++ "?number".toList := by cases app <;> decide
  have pieces := splitOn_paddedFrom [] (by simp) list.first list.others
  rw [requestTexts_of_equals (decodeURI_formUri app bytes) absent]
  rw [show list.text.splitOn ',' = list.padded.map PaddedNumber.text from pieces]
  apply List.filter_eq_self.mpr
  intro token member
  obtain ⟨padded, _, rfl⟩ := List.mem_map.mp member
  simp [padded.text_ne_nil]

theorem Separator.toNat_lt {separator : Separator} {c : Char}
    (member : c ∈ separator.text) : c.toNat < 256 := by
  rcases List.mem_append.mp member with before | comma
  · exact toNat_lt_of_isSpace (separator.blanksBefore c before)
  · rcases List.mem_cons.mp comma with rfl | after
    · decide
    · exact toNat_lt_of_isSpace (separator.blanksAfter c after)

namespace NumberList

theorem toNat_lt {list : NumberList} {c : Char} (member : c ∈ list.text) :
    c.toNat < 256 := by
  rcases List.mem_append.mp member with first | later
  · exact SignedDigits.toNat_lt first
  · obtain ⟨other, _, inside⟩ := List.mem_flatMap.mp later
    rcases List.mem_append.mp inside with separator | number
    · exact Separator.toNat_lt separator
    · exact SignedDigits.toNat_lt number

theorem map_number_padded (list : NumberList) :
    list.padded.map PaddedNumber.number = list.numbers :=
  map_number_paddedFrom [] (by simp) list.first list.others

theorem trailing_eq_nil_iff (list : NumberList) :
    (∀ padded ∈ list.padded, padded.trailing = []) ↔
      ∀ separator ∈ list.separators, separator.before = [] := by
  have texts : list.padded.map PaddedNumber.trailing =
      list.separators.map Separator.before ++ [[]] := by
    rw [separators, List.map_map]
    exact map_trailing_paddedFrom [] (by simp) list.first list.others
  rw [← List.forall_mem_map (f := PaddedNumber.trailing) (P := (· = [])), texts,
    List.forall_mem_append, List.forall_mem_map]
  simp

/-- The numbers followed by white space are dropped, the others are read. -/
theorem parseRequest_text (app : CalcApp) (list : NumberList)
    (fits : ∀ number ∈ list.numbers, number.Fits) :
    parseRequest (app.formUri list.text) [] =
      (list.padded.filter (fun padded => padded.trailing = [])).map
        fun padded => Int64.ofInt padded.number.value := by
  rw [parseRequest, List.nil_append, requestTexts_formUri app list fun _ => toNat_lt,
    List.filterMap_map, ← List.filterMap_eq_filter, List.map_filterMap]
  apply List.filterMap_congr
  intro padded member
  have fitsHere : padded.number.Fits := by
    apply fits
    rw [← list.map_number_padded]
    exact List.mem_map_of_mem member
  simp only [Function.comp_apply, convertNumber_padded padded fitsHere]
  by_cases last : padded.trailing = [] <;> simp [last]

/-- The server reads exactly the numbers of a list the form accepts when no
white space stands in front of a comma. -/
theorem parseRequest_formUri_iff (app : CalcApp) (list : NumberList)
    (fits : ∀ number ∈ list.numbers, number.Fits) :
    parseRequest (app.formUri list.text) [] =
        list.numbers.map (fun number => Int64.ofInt number.value) ↔
      ∀ separator ∈ list.separators, separator.before = [] := by
  rw [list.parseRequest_text app fits, ← list.map_number_padded,
    ← list.trailing_eq_nil_iff, List.map_map]
  constructor
  · intro same padded member
    have lengths := congrArg List.length same
    simp only [List.length_map] at lengths
    have whole := List.length_filter_eq_length_iff.mp lengths padded member
    simpa using whole
  · intro none
    have whole : list.padded.filter (fun padded => padded.trailing = []) =
        list.padded := by
      apply List.filter_eq_self.mpr
      intro padded member
      simp [none padded member]
    rw [whole]
    rfl

/-- The form accepts `17, -22` and the server reads both numbers. -/
theorem parseRequest_formUri_iff_sample :
    parseRequest "/fact?number=17%2C+-22".toList [] = [17, -22] := by
  let seventeen : SignedDigits :=
    ⟨[], "17".toList, .inl rfl, by simp, by simp⟩
  let twentyTwo : SignedDigits :=
    ⟨['-'], "22".toList, .inr (.inr rfl), by simp, by simp⟩
  let separator : Separator := ⟨[], [' '], by simp, by simp [isSpace]⟩
  exact (parseRequest_formUri_iff .fact ⟨seventeen, [(separator, twentyTwo)]⟩
    (by decide)).mpr (by intro other member; simp_all [separators, separator])

/-- The form accepts `17 ,22`, and the server drops the first number. -/
theorem parseRequest_formUri_blank :
    ∃ list : NumberList, list.text = "17 ,22".toList ∧
      (∀ number ∈ list.numbers, number.Fits) ∧
      CalcApp.fact.formUri list.text = "/fact?number=17+%2C22".toList ∧
      parseRequest (CalcApp.fact.formUri list.text) [] = [22] ∧
      list.numbers.map (fun number => Int64.ofInt number.value) = [17, 22] := by
  let seventeen : SignedDigits :=
    ⟨[], "17".toList, .inl rfl, by simp, by simp⟩
  let twentyTwo : SignedDigits :=
    ⟨[], "22".toList, .inl rfl, by simp, by simp⟩
  let separator : Separator := ⟨[' '], [], by simp [isSpace], by simp⟩
  refine ⟨⟨seventeen, [(separator, twentyTwo)]⟩, rfl, by decide, by decide, ?_, by decide⟩
  exact parseRequest_text .fact _ (by decide)

end NumberList

end Concurrente.WebServer
