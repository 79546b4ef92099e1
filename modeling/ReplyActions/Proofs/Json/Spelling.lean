import Mathlib.Data.List.TakeWhile
import ReplyActions.Json.Reader
import ReplyActions.Proofs.Datum.Plain
import ReplyActions.Proofs.Number.Decimal

/-!
# Spelled data

The texts that stand for a value in JSON (RFC 8259): there may be white space around every token,
and a character of a string may be written as it is or escaped. Numbers are integers of 64 bits
without further decoration. The reader makes of each such text the value it stands for.
-/

namespace ReplyActions.Json
open Number

/-! ### The texts of a value -/

/-- A code unit, escaped by four hexadecimal digits. -/
inductive SpellsUnit : Nat → List Char → Prop
  | digits {a b c d : Char} {i j k l : Nat} (ha : hexDigit? a = some i) (hb : hexDigit? b = some j)
      (hc : hexDigit? c = some k) (hd : hexDigit? d = some l) :
      SpellsUnit (((i * 16 + j) * 16 + k) * 16 + l) ['\\', 'u', a, b, c, d]

/-- A character in a string. -/
inductive SpellsChar : Char → List Char → Prop
  | plain {c : Char} (hcontrol : 32 ≤ c.toNat) (hquote : c ≠ '"') (hslash : c ≠ '\\') :
      SpellsChar c [c]
  | short {c letter : Char} (h : escaped? letter = some c) : SpellsChar c ['\\', letter]
  | unit {c : Char} {text : List Char} (h : SpellsUnit c.toNat text) : SpellsChar c text
  | pair {leading trailing : Nat} {first second : List Char} (hl : isLeading leading = true)
      (ht : isTrailing trailing = true) (hfirst : SpellsUnit leading first)
      (hsecond : SpellsUnit trailing second) :
      SpellsChar (paired leading trailing) (first ++ second)

inductive SpellsChars : List Char → List Char → Prop
  | nil : SpellsChars [] []
  | cons {c : Char} {rest first others : List Char} (hfirst : SpellsChar c first)
      (hrest : SpellsChars rest others) : SpellsChars (c :: rest) (first ++ others)

def SpellsText (s : String) (text : List Char) : Prop :=
  ∃ body, text = '"' :: (body ++ ['"']) ∧ SpellsChars s.toList body

def IsGap (text : List Char) : Prop := ∀ c ∈ text, isSpace c = true

theorem isGap_nil : IsGap [] := fun _ h => absurd h List.not_mem_nil

/-- A text with white space around it. -/
def Padded (P : List Char → Prop) (text : List Char) : Prop :=
  ∃ before inner after, text = before ++ (inner ++ after) ∧ IsGap before ∧ P inner ∧ IsGap after

mutual

def Spells : Datum → List Char → Prop
  | .null, text => text = "null".toList
  | .bool b, text => text = if b then "true".toList else "false".toList
  | .int i, text => isInteger64 i = true ∧ text = intDigits i
  | .text s, text => SpellsText s text
  | .list items, text => ∃ body, text = '[' :: (body ++ [']']) ∧ SpellsItems items body
  | .record fields, text => ∃ body, text = '{' :: (body ++ ['}']) ∧ SpellsFields fields body
  | .real _, _ => False
  | .unreadable, _ => False

def SpellsItems : List Datum → List Char → Prop
  | [], body => IsGap body
  | [item], body => Padded (Spells item) body
  | item :: next :: rest, body => ∃ first others, body = first ++ ',' :: others ∧
      Padded (Spells item) first ∧ SpellsItems (next :: rest) others

def SpellsFields : List (String × Datum) → List Char → Prop
  | [], body => IsGap body
  | [(name, value)], body => ∃ left right, body = left ++ ':' :: right ∧
      Padded (SpellsText name) left ∧ Padded (Spells value) right
  | (name, value) :: next :: rest, body => ∃ left right others,
      body = left ++ ':' :: (right ++ ',' :: others) ∧ Padded (SpellsText name) left ∧
      Padded (Spells value) right ∧ SpellsFields (next :: rest) others

end

/-! ### Runs of the reader -/

def Reads (s : State) (text : List Char) (after : State) : Prop :=
  text.foldlM step s = some after

namespace Reads

variable {s after last : State} {c : Char} {text rest : List Char}

theorem nil (s : State) : Reads s [] s := rfl

theorem cons (h : step s c = some after) (hrest : Reads after rest last) :
    Reads s (c :: rest) last := by
  rw [Reads, List.foldlM_cons, h]
  exact hrest

theorem append (h : Reads s text after) (hrest : Reads after rest last) :
    Reads s (text ++ rest) last := by
  rw [Reads, List.foldlM_append, show text.foldlM step s = some after from h]
  exact hrest

theorem single (h : step s c = some after) : Reads s [c] after := cons h (nil after)

theorem gap (hs : ∀ c, isSpace c = true → step s c = some s) (h : IsGap text) :
    Reads s text s := by
  induction text with
  | nil => exact nil s
  | cons c rest ih =>
    rw [IsGap, List.forall_mem_cons] at h
    exact cons (hs c h.1) (ih h.2)

end Reads

/-- The value has been read, or a word or number has been that stands for it. -/
def Expectation.Holds (value : Datum) : Expectation → Prop
  | .after found => found = value
  | .bare chars => bareValue? chars.reverse = some value
  | _ => False

variable {value : Datum} {expects : Expectation} {frames : List Frame} {c : Char}
  {text : List Char}

theorem Expectation.Holds.step (h : expects.Holds value) (hc : endsBare c = true) :
    step ⟨frames, expects⟩ c = afterValue frames value c := by
  cases expects with
  | after found =>
    have hfound : found = value := h
    rw [hfound]
    rfl
  | bare chars =>
    have hvalue : bareValue? chars.reverse = some value := h
    simp only [Json.step, hc, hvalue, if_true, Option.bind_some]
  | _ => exact h.elim

theorem endsBare_of_isSpace (h : isSpace c = true) : endsBare c = true := by
  simp only [endsBare, h, Bool.true_or]

theorem reads_gap_after (h : IsGap text) :
    Reads ⟨frames, .after value⟩ text ⟨frames, .after value⟩ :=
  .gap (fun c hc => by simp only [step, afterValue, hc, if_true]) h

theorem Expectation.Holds.gap (h : expects.Holds value) (frames : List Frame) (hgap : IsGap text) :
    ∃ after : Expectation, after.Holds value ∧ Reads ⟨frames, expects⟩ text ⟨frames, after⟩ := by
  cases text with
  | nil => exact ⟨expects, h, .nil _⟩
  | cons c rest =>
    rw [IsGap, List.forall_mem_cons] at hgap
    -- the first blank may be what tells that a word or number is over
    have hc : Json.step ⟨frames, expects⟩ c = some ⟨frames, .after value⟩ := by
      rw [h.step (endsBare_of_isSpace hgap.1)]
      simp only [afterValue, hgap.1, if_true]
    exact ⟨.after value, rfl, .cons hc (reads_gap_after hgap.2)⟩

/-- Where a value is expected, the text is read as this value. -/
def ReadsAs (value : Datum) (text : List Char) : Prop :=
  ∀ frames, ∃ after : Expectation, after.Holds value ∧
    Reads ⟨frames, .value⟩ text ⟨frames, after⟩

theorem reads_gap_value (h : IsGap text) : Reads ⟨frames, .value⟩ text ⟨frames, .value⟩ :=
  .gap (fun c hc => by simp only [step, hc, if_true]) h

theorem readsAs_of_padded (h : Padded (ReadsAs value) text) : ReadsAs value text := by
  intro frames
  obtain ⟨before, inner, after, rfl, hbefore, hinner, hafter⟩ := h
  obtain ⟨found, hfound, hreads⟩ := hinner frames
  obtain ⟨last, hlast, hend⟩ := hfound.gap frames hafter
  exact ⟨last, hlast, (reads_gap_value hbefore).append (hreads.append hend)⟩

/-! ### Words and numbers -/

/-- White space and the characters that JSON itself is written with. -/
def marks : List Char := [' ', '\n', '\t', '\r', ',', ']', '}', '"', '[', '{', ':']

variable (h : c ∉ marks)
include h

theorem endsBare_of_notMem_marks : endsBare c = false := by
  simp only [marks, List.mem_cons, not_or] at h
  simp only [endsBare, isSpace, Bool.or_eq_false_iff, beq_eq_false_iff_ne]
  grind

theorem step_value_of_notMem_marks :
    step ⟨frames, .value⟩ c = some ⟨frames, .bare [c]⟩ := by
  have hends := endsBare_of_notMem_marks h
  simp only [endsBare, Bool.or_eq_false_iff] at hends
  simp only [step, hends.1.1.1, Bool.false_eq_true, if_false]
  unfold beginValue
  split <;> first | rfl | exact absurd (by decide) h

omit h

theorem reads_bare {chars : List Char} (h : ∀ c ∈ text, c ∉ marks) :
    Reads ⟨frames, .bare chars⟩ text ⟨frames, .bare (text.reverse ++ chars)⟩ := by
  induction text generalizing chars with
  | nil => exact .nil _
  | cons c rest ih =>
    rw [List.forall_mem_cons] at h
    have hc : step ⟨frames, .bare chars⟩ c = some ⟨frames, .bare (c :: chars)⟩ := by
      simp only [step, endsBare_of_notMem_marks h.1, Bool.false_eq_true, if_false]
    rw [List.reverse_cons, List.append_assoc, List.singleton_append]
    exact .cons hc (ih h.2)

theorem readsAs_of_bareValue? (hvalue : bareValue? text = some value) (hne : text ≠ [])
    (hbare : ∀ c ∈ text, c ∉ marks) : ReadsAs value text := by
  intro frames
  cases text with
  | nil => exact absurd rfl hne
  | cons c rest =>
    rw [List.forall_mem_cons] at hbare
    refine ⟨.bare (rest.reverse ++ [c]), ?_,
      .cons (step_value_of_notMem_marks hbare.1) (reads_bare hbare.2)⟩
    rw [Expectation.Holds, List.reverse_append, List.reverse_reverse]
    exact hvalue

theorem notMem_marks_of_isDigit (h : isDigit c = true) : c ∉ marks := by
  have hmarks : marks.any isDigit = false := by decide
  intro hm
  exact Bool.eq_false_iff.mp hmarks (List.any_eq_true.mpr ⟨c, hm, h⟩)

theorem notMem_marks_of_all (h : text.all (fun c => !marks.contains c) = true) :
    ∀ c ∈ text, c ∉ marks := by
  simpa only [List.all_eq_true, Bool.not_eq_true', List.contains_eq_mem,
    decide_eq_false_iff_not] using h

theorem isWholePart_natDigits (n : Nat) : isWholePart (natDigits n) = true := by
  have hall : (natDigits n).all isDigit = true :=
    List.all_eq_true.mpr fun c hc => isDigit_of_mem_natDigits hc
  rcases Nat.eq_zero_or_pos n with rfl | hpos
  · decide
  · obtain ⟨first, rest, hrest, hne⟩ := natDigits_of_pos hpos
    rw [hrest] at hall ⊢
    unfold isWholePart
    split
    · contradiction
    · rfl
    · next _ hzero => exact absurd (List.cons.inj hzero).1 hne
    · exact hall

theorem numberOf?_natDigits {negative : Bool} {n : Nat} {spelling : List Char}
    (hrange : isInteger64 (if negative then -(n : Int) else n) = true)
    (hzero : negative = true → n ≠ 0) :
    numberOf? negative (natDigits n) spelling =
      some (.int (if negative then -(n : Int) else n)) := by
  have hall : ∀ c ∈ natDigits n, isDigit c = true := fun c hc => isDigit_of_mem_natDigits hc
  have htake : (natDigits n).takeWhile isDigit = natDigits n := List.takeWhile_eq_self_iff.mpr hall
  have hdrop : (natDigits n).dropWhile isDigit = [] := List.dropWhile_eq_nil_iff.mpr hall
  have hsign : (negative && ((n : Int) == 0)) = false := by
    cases negative with
    | false => rfl
    | true => simp [hzero rfl]
  simp only [numberOf?, htake, hdrop, natOfDigits_natDigits, isWholePart_natDigits, hrange, hsign,
    Bool.not_true, Bool.false_eq_true, if_false, List.isEmpty_nil, if_true, Bool.not_false,
    Bool.and_self]

theorem bareValue?_of_isDigit {first : Char} {rest : List Char} (h : isDigit first = true) :
    bareValue? (first :: rest) = numberOf? false (first :: rest) (first :: rest) := by
  have hne : ∀ other, isDigit other = false → first ≠ other := by
    rintro other hother rfl
    rw [h] at hother
    contradiction
  have hword : ∀ word : List Char, word.head?.all isDigit = false → first :: rest ≠ word := by
    rintro word hword rfl
    simp only [List.head?_cons, Option.all_some, h] at hword
    contradiction
  simp only [bareValue?, hword _ (by decide : "null".toList.head?.all isDigit = false),
    hword _ (by decide : "true".toList.head?.all isDigit = false),
    hword _ (by decide : "false".toList.head?.all isDigit = false), if_false]
  split
  · next hminus => exact absurd (List.cons.inj hminus).1 (hne '-' (by decide))
  · rfl

theorem bareValue?_intDigits {i : Int} (h : isInteger64 i = true) :
    bareValue? (intDigits i) = some (.int i) := by
  by_cases hneg : i < 0
  · have hvalue : -(i.natAbs : Int) = i := by omega
    simp only [intDigits, hneg, if_true]
    have hnumber : bareValue? ('-' :: natDigits i.natAbs) =
        numberOf? true (natDigits i.natAbs) ('-' :: natDigits i.natAbs) := rfl
    rw [hnumber, numberOf?_natDigits (by simpa only [if_true, hvalue] using h) (by omega),
      if_pos rfl, hvalue]
  · have hvalue : (i.natAbs : Int) = i := by omega
    simp only [intDigits, hneg, if_false]
    obtain ⟨first, rest, hrest⟩ := List.exists_cons_of_ne_nil (natDigits_ne_nil i.natAbs)
    have hdigit : isDigit first = true := isDigit_of_mem_natDigits (hrest ▸ List.mem_cons_self)
    have hnumber : bareValue? (natDigits i.natAbs) =
        numberOf? false (natDigits i.natAbs) (natDigits i.natAbs) := by
      rw [hrest]
      exact bareValue?_of_isDigit hdigit
    rw [hnumber, numberOf?_natDigits (by simpa only [Bool.false_eq_true, if_false, hvalue] using h)
      (by simp), if_neg (by simp), hvalue]

theorem readsAs_int {i : Int} (h : isInteger64 i = true) : ReadsAs (.int i) (intDigits i) := by
  refine readsAs_of_bareValue? (bareValue?_intDigits h) ?_ ?_
  · simp only [intDigits]
    split
    · exact List.cons_ne_nil _ _
    · exact natDigits_ne_nil _
  · have hdigits : ∀ c ∈ natDigits i.natAbs, c ∉ marks := fun c hc =>
      notMem_marks_of_isDigit (isDigit_of_mem_natDigits hc)
    simp only [intDigits]
    split
    · exact List.forall_mem_cons.mpr ⟨by decide, hdigits⟩
    · exact hdigits

/-! ### Strings -/

/-- Within a string, the text is read as pieces that make up the characters. -/
structure ReadsPieces (chars text : List Char) (pieces : List Piece) : Prop where
  reads : ∀ isName frames before, Reads ⟨frames, .string isName before .outside⟩ text
    ⟨frames, .string isName (pieces.reverse ++ before) .outside⟩
  assembled : ∀ rest, assembled? (pieces ++ rest) = (assembled? rest).map (chars ++ ·)

theorem ReadsPieces.append {chars others text rest : List Char} {pieces more : List Piece}
    (h : ReadsPieces chars text pieces) (hrest : ReadsPieces others rest more) :
    ReadsPieces (chars ++ others) (text ++ rest) (pieces ++ more) where
  reads isName frames before := by
    rw [List.reverse_append, List.append_assoc]
    exact (h.reads isName frames before).append (hrest.reads isName frames _)
  assembled others := by
    rw [List.append_assoc, h.assembled, hrest.assembled, Option.map_map]
    simp only [Function.comp_def, List.append_assoc]

theorem SpellsUnit.reads {unit : Nat} (h : SpellsUnit unit text) (isName : Bool)
    (frames : List Frame) (before : List Piece) :
    Reads ⟨frames, .string isName before .outside⟩ text
      ⟨frames, .string isName (pieceOf unit :: before) .outside⟩ := by
  cases h with
  | @digits a b c d i j k l ha hb hc hd =>
    have hslash : step ⟨frames, .string isName before .outside⟩ '\\' =
        some ⟨frames, .string isName before .begun⟩ := rfl
    have hletter : step ⟨frames, .string isName before .begun⟩ 'u' =
        some ⟨frames, .string isName before (.unit 0 0)⟩ := rfl
    have hdigit : ∀ (digits value : Nat) {digit : Char} {n : Nat}, hexDigit? digit = some n →
        digits ≠ 3 → step ⟨frames, .string isName before (.unit digits value)⟩ digit =
          some ⟨frames, .string isName before (.unit (digits + 1) (value * 16 + n))⟩ := by
      intro digits value digit n hn hmore
      simp only [step, inString, hn, Option.map_some, if_neg hmore]
    have hfirst := hdigit 0 0 ha (by decide)
    have hlast : step ⟨frames, .string isName before (.unit 3 ((i * 16 + j) * 16 + k))⟩ d =
        some ⟨frames, .string isName (pieceOf (((i * 16 + j) * 16 + k) * 16 + l) :: before)
          .outside⟩ := by
      simp only [step, inString, hd, Option.map_some, if_true]
    simp only [Nat.zero_mul, Nat.zero_add] at hfirst
    exact .cons hslash <| .cons hletter <| .cons hfirst <| .cons (hdigit 1 _ hb (by decide)) <|
      .cons (hdigit 2 _ hc (by decide)) <| .single hlast

theorem pieceOf_toNat (c : Char) : pieceOf c.toNat = .char c := by
  have hvalid : c.toNat < 0xD800 ∨ 0xDFFF < c.toNat := by
    rcases c.valid with h | h
    · exact Or.inl h
    · exact Or.inr h.1
  have hhalf : (isLeading c.toNat || isTrailing c.toNat) = false := by
    simp only [isLeading, isTrailing, Bool.or_eq_false_iff, Bool.and_eq_false_iff,
      decide_eq_false_iff_not]
    omega
  rw [pieceOf, hhalf, if_neg Bool.false_ne_true, Char.ofNat_toNat]

theorem reads_short {c letter : Char} (h : escaped? letter = some c) (isName : Bool)
    (frames : List Frame) (before : List Piece) :
    Reads ⟨frames, .string isName before .outside⟩ ['\\', letter]
      ⟨frames, .string isName (.char c :: before) .outside⟩ := by
  have hslash : step ⟨frames, .string isName before .outside⟩ '\\' =
      some ⟨frames, .string isName before .begun⟩ := rfl
  have hne : letter ≠ 'u' := by
    rintro rfl
    contradiction
  refine .cons hslash (.single ?_)
  simp only [step, inString, if_neg hne, h, Option.map_some]

theorem SpellsChar.exists_readsPieces {c : Char} (h : SpellsChar c text) :
    ∃ pieces, ReadsPieces [c] text pieces := by
  have hchar : ∀ rest, assembled? ([.char c] ++ rest) = (assembled? rest).map ([c] ++ ·) :=
    fun rest => rfl
  cases h with
  | plain hcontrol hquote hslash =>
    refine ⟨[.char c], fun isName frames before => .single ?_, hchar⟩
    simp only [step, inString, if_neg hquote, if_neg hslash, if_neg (Nat.not_lt.mpr hcontrol)]
    rfl
  | short h => exact ⟨[.char c], reads_short h, hchar⟩
  | unit h =>
    refine ⟨[.char c], fun isName frames before => ?_, hchar⟩
    have hreads := h.reads isName frames before
    rw [pieceOf_toNat] at hreads
    exact hreads
  | @pair leading trailing first second hl ht hfirst hsecond =>
    refine ⟨[.half leading, .half trailing], fun isName frames before => ?_, fun rest => ?_⟩
    -- the halves are pieces of their own until the string is put together
    · have hreads := (hfirst.reads isName frames before).append
        (hsecond.reads isName frames (pieceOf leading :: before))
      simp only [pieceOf, hl, ht, Bool.true_or, Bool.or_true, if_true] at hreads
      exact hreads
    · simp only [List.cons_append, List.nil_append, assembled?, hl, ht, Bool.and_self, if_true]

theorem SpellsChars.exists_readsPieces {chars : List Char} (h : SpellsChars chars text) :
    ∃ pieces, ReadsPieces chars text pieces := by
  induction h with
  | nil => exact ⟨[], fun _ _ _ => .nil _, fun _ => Option.map_id'.symm⟩
  | cons hfirst _ ih =>
    obtain ⟨pieces, hpieces⟩ := hfirst.exists_readsPieces
    obtain ⟨more, hmore⟩ := ih
    exact ⟨pieces ++ more, hpieces.append hmore⟩

/-- A string is over with its closing quote, and then its characters are known. -/
theorem SpellsChars.reads_quoted {s : String} (h : SpellsChars s.toList text) (isName : Bool)
    (frames : List Frame) {after : State}
    (hend : ∀ pieces, (assembled? pieces.reverse).map String.ofList = some s →
      endString frames isName pieces = some after) :
    Reads ⟨frames, .string isName [] .outside⟩ (text ++ ['"']) after := by
  obtain ⟨pieces, hpieces⟩ := h.exists_readsPieces
  have hcontent : (assembled? pieces).map String.ofList = some s := by
    have hassembled := hpieces.assembled []
    rw [List.append_nil] at hassembled
    simp [hassembled, assembled?]
  have hquote : step ⟨frames, .string isName (pieces.reverse ++ []) .outside⟩ '"' = some after := by
    refine hend _ ?_
    rw [List.append_nil, List.reverse_reverse]
    exact hcontent
  exact (hpieces.reads isName frames []).append (.single hquote)

theorem readsAs_text {s : String} (h : SpellsText s text) : ReadsAs (.text s) text := by
  obtain ⟨body, rfl, hbody⟩ := h
  intro frames
  have hquote : step ⟨frames, .value⟩ '"' = some ⟨frames, .string false [] .outside⟩ := rfl
  refine ⟨.after (.text s), rfl, .cons hquote (hbody.reads_quoted false frames ?_)⟩
  intro pieces hpieces
  simp only [endString, Bool.false_eq_true, if_false, hpieces]

/-! ### Lists and records -/

theorem Spells.exists_cons (h : Spells value text) :
    ∃ first rest, text = first :: rest ∧ isSpace first = false ∧ first ≠ ']' := by
  cases value with
  | null => exact ⟨'n', "ull".toList, h, rfl, by decide⟩
  | bool b =>
    cases b with
    | false => exact ⟨'f', "alse".toList, h, rfl, by decide⟩
    | true => exact ⟨'t', "rue".toList, h, rfl, by decide⟩
  | int i =>
    obtain ⟨-, rfl⟩ := h
    simp only [intDigits]
    split
    · exact ⟨'-', _, rfl, rfl, by decide⟩
    · obtain ⟨first, rest, hrest⟩ := List.exists_cons_of_ne_nil (natDigits_ne_nil i.natAbs)
      have hdigit : isDigit first = true := isDigit_of_mem_natDigits (hrest ▸ List.mem_cons_self)
      have hmarks := notMem_marks_of_isDigit hdigit
      have hends := endsBare_of_notMem_marks hmarks
      simp only [endsBare, Bool.or_eq_false_iff] at hends
      refine ⟨first, rest, hrest, hends.1.1.1, ?_⟩
      rintro rfl
      contradiction
  | real spelling => exact h.elim
  | text s =>
    obtain ⟨body, rfl, -⟩ := h
    exact ⟨'"', _, rfl, rfl, by decide⟩
  | unreadable => exact h.elim
  | list items =>
    obtain ⟨body, rfl, -⟩ := h
    exact ⟨'[', _, rfl, rfl, by decide⟩
  | record fields =>
    obtain ⟨body, rfl, -⟩ := h
    exact ⟨'{', _, rfl, rfl, by decide⟩

theorem exists_first_of_spellsItems {item : Datum} {rest : List Datum} {body : List Char}
    (h : SpellsItems (item :: rest) body) :
    ∃ first others, body = first ++ others ∧ Padded (Spells item) first := by
  cases rest with
  | nil => exact ⟨body, [], (List.append_nil body).symm, h⟩
  | cons next rest =>
    obtain ⟨first, others, hbody, hfirst, -⟩ := h
    exact ⟨first, ',' :: others, hbody, hfirst⟩

/-- The first item of a list is read like any other value, as it does not close the list. -/
theorem reads_firstItem {others : List Char} {after : State} (hfirst : Padded (Spells value) text)
    (h : Reads ⟨frames, .value⟩ (text ++ others) after) :
    Reads ⟨frames, .firstItem⟩ (text ++ others) after := by
  obtain ⟨gap, inner, tail, rfl, hgap, hinner, -⟩ := hfirst
  obtain ⟨first, rest, rfl, hspace, hclose⟩ := hinner.exists_cons
  have hbegin : step ⟨frames, .firstItem⟩ first = step ⟨frames, .value⟩ first := by
    simp only [step, hspace, Bool.false_eq_true, if_false, if_neg hclose]
  -- in white space the reader waits in either state, and then it does the same in both
  have hvalue : gap.foldlM step ⟨frames, .value⟩ = some ⟨frames, .value⟩ := reads_gap_value hgap
  have hitem : gap.foldlM step ⟨frames, .firstItem⟩ = some ⟨frames, .firstItem⟩ :=
    Reads.gap (fun c hc => by simp only [step, hc, if_true]) hgap
  simp only [Reads, List.append_assoc, List.cons_append, List.foldlM_append, List.foldlM_cons,
    hvalue, hitem, Option.bind_eq_bind, Option.bind_some, hbegin] at h ⊢
  exact h

/-- Fields as the reader notes them down. -/
def noted (fields : List (String × Datum)) : List (Option String × Datum) :=
  (fields.map fun field => (some field.1, field.2)).reverse

theorem recordOf_noted (fields : List (String × Datum)) :
    recordOf (noted fields) = .record fields := by
  have hnames : (fields.map fun field => (some field.1, field.2)).mapM
      (fun f : Option String × Datum => f.1.map fun name => (name, f.2)) = some fields := by
    induction fields with
    | nil => rfl
    | cons first rest ih =>
      rw [List.map_cons, List.mapM_cons, ih]
      rfl
  rw [recordOf, noted, List.reverse_reverse, hnames]

theorem noted_append (fields : List (String × Datum)) (name : String) (value : Datum) :
    (some name, value) :: noted fields = noted (fields ++ [(name, value)]) := by
  simp only [noted, List.map_append, List.map_cons, List.map_nil, List.reverse_append,
    List.reverse_cons, List.reverse_nil, List.nil_append, List.cons_append]

/-- The name of a field, up to its colon. -/
theorem reads_name {name : String} {fields : List (Option String × Datum)}
    {expects : Expectation} (hexpects : expects = .firstName ∨ expects = .name)
    (h : Padded (SpellsText name) text) :
    Reads ⟨.record fields none :: frames, expects⟩ (text ++ [':'])
      ⟨.record fields (some name) :: frames, .value⟩ := by
  obtain ⟨before, inner, after, rfl, hbefore, ⟨body, rfl, hbody⟩, hafter⟩ := h
  have hgap : Reads ⟨.record fields none :: frames, expects⟩ before
      ⟨.record fields none :: frames, expects⟩ := by
    refine .gap (fun c hc => ?_) hbefore
    rcases hexpects with rfl | rfl <;> simp only [step, hc, if_true]
  have hopen : step ⟨.record fields none :: frames, expects⟩ '"' =
      some ⟨.record fields none :: frames, .string true [] .outside⟩ := by
    rcases hexpects with rfl | rfl <;> rfl
  have hquoted : Reads ⟨.record fields none :: frames, .string true [] .outside⟩ (body ++ ['"'])
      ⟨.record fields (some name) :: frames, .colon⟩ := by
    refine hbody.reads_quoted true _ fun pieces hpieces => ?_
    simp only [endString, if_true, hpieces]
  have htail : Reads ⟨.record fields (some name) :: frames, .colon⟩ after
      ⟨.record fields (some name) :: frames, .colon⟩ :=
    .gap (fun c hc => by simp only [step, hc, if_true]) hafter
  have hcolon : step ⟨.record fields (some name) :: frames, .colon⟩ ':' =
      some ⟨.record fields (some name) :: frames, .value⟩ := rfl
  rw [List.append_assoc, List.append_assoc]
  exact hgap.append (.append (.cons hopen hquoted) (htail.append (.single hcolon)))

/-- A value and the mark after it. -/
theorem reads_value {after : State} (h : ReadsAs value text) (hends : endsBare c = true)
    (hafter : afterValue frames value c = some after) :
    Reads ⟨frames, .value⟩ (text ++ [c]) after := by
  obtain ⟨found, hfound, hreads⟩ := h frames
  refine hreads.append (.single ?_)
  rw [hfound.step hends, hafter]

/-- The texts of the value are read as the value. -/
def IsRead (value : Datum) : Prop := ∀ text, Spells value text → ReadsAs value text

theorem IsRead.padded (h : IsRead value) (htext : Padded (Spells value) text) :
    ReadsAs value text := by
  obtain ⟨before, inner, after, hsplit, hbefore, hinner, hafter⟩ := htext
  exact readsAs_of_padded ⟨before, inner, after, hsplit, hbefore, h inner hinner, hafter⟩

theorem reads_items {item : Datum} {rest : List Datum} {body : List Char}
    (hread : ∀ value ∈ item :: rest, IsRead value) (h : SpellsItems (item :: rest) body)
    (frames : List Frame) (done : List Datum) :
    Reads ⟨.list done :: frames, .value⟩ (body ++ [']'])
      ⟨frames, .after (.list (done.reverse ++ item :: rest))⟩ := by
  -- along the items, with those that are done in the frame
  induction rest generalizing item body done with
  | nil =>
    have hitem : ReadsAs item body := (hread item List.mem_cons_self).padded h
    have hclose : afterValue (.list done :: frames) item ']' =
        some ⟨frames, .after (.list (done.reverse ++ [item]))⟩ := by
      rw [← List.reverse_cons]
      rfl
    exact reads_value hitem rfl hclose
  | cons next rest ih =>
    rw [List.forall_mem_cons] at hread
    obtain ⟨first, others, rfl, hfirst, hothers⟩ := h
    have hcomma : Reads ⟨.list done :: frames, .value⟩ (first ++ [','])
        ⟨.list (item :: done) :: frames, .value⟩ := reads_value (hread.1.padded hfirst) rfl rfl
    have hrest := ih hread.2 hothers (item :: done)
    rw [List.reverse_cons, List.append_assoc, List.singleton_append] at hrest
    rw [List.append_assoc, List.cons_append, List.append_cons]
    exact hcomma.append hrest

theorem reads_fields {name : String} {rest : List (String × Datum)} {body : List Char}
    (hread : ∀ field ∈ (name, value) :: rest, IsRead field.2)
    (h : SpellsFields ((name, value) :: rest) body) (frames : List Frame)
    (done : List (String × Datum)) {expects : Expectation}
    (hexpects : expects = .firstName ∨ expects = .name) :
    Reads ⟨.record (noted done) none :: frames, expects⟩ (body ++ ['}'])
      ⟨frames, .after (.record (done ++ (name, value) :: rest))⟩ := by
  induction rest generalizing name value body done expects with
  | nil =>
    obtain ⟨left, right, rfl, hleft, hright⟩ := h
    have hvalue : ReadsAs value right := (hread _ List.mem_cons_self).padded hright
    have hclose : afterValue (.record (noted done) (some name) :: frames) value '}' =
        some ⟨frames, .after (.record (done ++ [(name, value)]))⟩ := by
      rw [← recordOf_noted, ← noted_append]
      rfl
    have hend := reads_value hvalue rfl hclose
    rw [List.append_assoc, List.cons_append, List.append_cons]
    exact (reads_name hexpects hleft).append hend
  | cons next rest ih =>
    rw [List.forall_mem_cons] at hread
    obtain ⟨left, right, others, rfl, hleft, hright, hothers⟩ := h
    have hvalue : ReadsAs value right := hread.1.padded hright
    have hcomma : afterValue (.record (noted done) (some name) :: frames) value ',' =
        some ⟨.record (noted (done ++ [(name, value)])) none :: frames, .name⟩ := by
      rw [← noted_append]
      rfl
    have hend := reads_value hvalue rfl hcomma
    have hrest := ih hread.2 hothers (done ++ [(name, value)]) (.inr rfl)
    rw [List.append_assoc, List.singleton_append] at hrest
    rw [List.append_assoc, List.cons_append, List.append_cons, List.append_assoc right,
      List.cons_append, List.append_cons right]
    exact (reads_name hexpects hleft).append (hend.append hrest)

theorem isRead_list {items : List Datum} (hread : ∀ item ∈ items, IsRead item) :
    IsRead (.list items) := by
  rintro text ⟨body, rfl, hbody⟩ frames
  have hopen : step ⟨frames, .value⟩ '[' = some ⟨.list [] :: frames, .firstItem⟩ := rfl
  cases items with
  | nil =>
    have hgap : Reads ⟨.list [] :: frames, .firstItem⟩ body ⟨.list [] :: frames, .firstItem⟩ :=
      .gap (fun c hc => by simp only [step, hc, if_true]) hbody
    have hclose : step ⟨.list [] :: frames, .firstItem⟩ ']' =
        some ⟨frames, .after (.list [])⟩ := rfl
    exact ⟨.after (.list []), rfl, .cons hopen (hgap.append (.single hclose))⟩
  | cons item rest =>
    have hitems := reads_items hread hbody frames []
    obtain ⟨first, others, rfl, hfirst⟩ := exists_first_of_spellsItems hbody
    rw [List.append_assoc] at hitems ⊢
    exact ⟨.after (.list (item :: rest)), rfl, .cons hopen (reads_firstItem hfirst hitems)⟩

theorem isRead_record {fields : List (String × Datum)}
    (hread : ∀ field ∈ fields, IsRead field.2) : IsRead (.record fields) := by
  rintro text ⟨body, rfl, hbody⟩ frames
  have hopen : step ⟨frames, .value⟩ '{' = some ⟨.record [] none :: frames, .firstName⟩ := rfl
  cases fields with
  | nil =>
    have hgap : Reads ⟨.record [] none :: frames, .firstName⟩ body
        ⟨.record [] none :: frames, .firstName⟩ :=
      .gap (fun c hc => by simp only [step, hc, if_true]) hbody
    have hclose : step ⟨.record [] none :: frames, .firstName⟩ '}' =
        some ⟨frames, .after (.record [])⟩ := rfl
    exact ⟨.after (.record []), rfl, .cons hopen (hgap.append (.single hclose))⟩
  | cons field rest =>
    have hfields := reads_fields hread hbody frames [] (.inl rfl)
    exact ⟨.after (.record (field :: rest)), rfl, .cons hopen hfields⟩

theorem isRead (value : Datum) : IsRead value := by
  induction value using Datum.ind with
  | null =>
    rintro text rfl
    exact readsAs_of_bareValue? (by decide) (by decide) (notMem_marks_of_all (by decide))
  | bool b =>
    rintro text rfl
    cases b with
    | false => exact readsAs_of_bareValue? (by decide) (by decide) (notMem_marks_of_all (by decide))
    | true => exact readsAs_of_bareValue? (by decide) (by decide) (notMem_marks_of_all (by decide))
  | int i =>
    rintro text ⟨hrange, rfl⟩
    exact readsAs_int hrange
  | real spelling => exact fun _ h => h.elim
  | text s => exact fun _ h => readsAs_text h
  | unreadable => exact fun _ h => h.elim
  | list items ih => exact isRead_list ih
  | record fields ih => exact isRead_record ih

/-! ### Documents -/

/-- A document is a value with white space around it. -/
def SpellsDocument (value : Datum) (text : String) : Prop := Padded (Spells value) text.toList

theorem read_of_spells {text : String} (h : SpellsDocument value text) :
    read text = some value := by
  obtain ⟨found, hfound, hreads⟩ := (isRead value).padded h []
  have hrun : text.toList.foldlM step State.start = some ⟨[], found⟩ := hreads
  rw [read, readChars, hrun, Option.bind_some]
  cases found with
  | after last =>
    have hlast : last = value := hfound
    rw [hlast]
    rfl
  | bare chars => exact hfound
  | _ => exact hfound.elim

end ReplyActions.Json
