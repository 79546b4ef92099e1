import ReplyActions.Proofs.Token.Occurrence

/-!
# Stripping, one character at a time

Stripping is a machine that reads a text from left to right. Its state is made explicit here, with
what reading one character does to it, and with what reading a nest does: a token, whose body may
hold further tokens, leaves the open brackets as they are and takes itself out.
-/

namespace ReplyActions.Token

/-- The state of stripping: the open brackets, the text kept so far, last character first, and
whether a token has been taken out. -/
structure Scan where
  frames : List Frame
  out : List Char
  removed : Bool

namespace Scan

def start : Scan := ⟨[], [], false⟩

def opened (out rest : List Char) : Frame :=
  if startsWithKeyword rest then .token out true else .bracket

/-- The state after one more character, in front of `rest`. -/
def read (s : Scan) (c : Char) (rest : List Char) : Scan :=
  if c = '[' then ⟨opened s.out rest :: s.frames, '[' :: s.out, s.removed⟩
  else if c = ']' then
    match s.frames with
    | .token before true :: outer => ⟨outer, keptBefore before rest, true⟩
    | _ :: outer => ⟨soiled outer, ']' :: s.out, s.removed⟩
    | [] => ⟨[], ']' :: s.out, s.removed⟩
  else ⟨s.frames, c :: s.out, s.removed⟩

/-- The state after all characters of `source`, in front of `rest`. -/
def readAll (s : Scan) (source rest : List Char) : Scan :=
  match source with
  | [] => s
  | c :: more => (s.read c (more ++ rest)).readAll more rest

def finish (text : List Char) : Scan := start.readAll text []

theorem read_plain (s : Scan) {c : Char} (h : isBracket c = false) (rest : List Char) :
    s.read c rest = ⟨s.frames, c :: s.out, s.removed⟩ := by
  obtain ⟨ho, hc⟩ := (isBracket_eq_false_iff c).mp h
  simp only [read, if_neg ho, if_neg hc]

theorem read_open (s : Scan) (rest : List Char) :
    s.read '[' rest = ⟨opened s.out rest :: s.frames, '[' :: s.out, s.removed⟩ := rfl

theorem read_close_token {s : Scan} {before : List Char} {outer : List Frame}
    (h : s.frames = .token before true :: outer) (rest : List Char) :
    s.read ']' rest = ⟨outer, keptBefore before rest, true⟩ := by
  simp only [read, h]
  rfl

theorem read_close_kept {s : Scan} (h : ∀ before outer, s.frames ≠ .token before true :: outer)
    (rest : List Char) :
    s.read ']' rest = ⟨soiled s.frames.tail, ']' :: s.out, s.removed⟩ := by
  obtain ⟨frames, out, removed⟩ := s
  rcases frames with _ | ⟨⟨before, _ | _⟩ | _, outer⟩
  · rfl
  · rfl
  · exact absurd rfl (h before outer)
  · rfl

/-- What one character does: it is kept, it opens a bracket, it takes a token out, or it closes
a bracket that stays. -/
theorem read_cases (s : Scan) (c : Char) (rest : List Char) :
    (isBracket c = false ∧ s.read c rest = ⟨s.frames, c :: s.out, s.removed⟩) ∨
    (c = '[' ∧ s.read c rest = ⟨opened s.out rest :: s.frames, '[' :: s.out, s.removed⟩) ∨
    (c = ']' ∧ ∃ before outer, s.frames = .token before true :: outer ∧
      s.read c rest = ⟨outer, keptBefore before rest, true⟩) ∨
    (c = ']' ∧ (∀ before outer, s.frames ≠ .token before true :: outer) ∧
      s.read c rest = ⟨soiled s.frames.tail, ']' :: s.out, s.removed⟩) := by
  cases hb : isBracket c with
  | false => exact Or.inl ⟨rfl, read_plain s hb rest⟩
  | true =>
    rcases (isBracket_eq_true_iff c).mp hb with rfl | rfl
    · exact Or.inr (Or.inl ⟨rfl, rfl⟩)
    · by_cases h : ∃ before outer, s.frames = .token before true :: outer
      · obtain ⟨before, outer, h⟩ := h
        exact Or.inr (Or.inr (Or.inl ⟨rfl, before, outer, h, read_close_token h rest⟩))
      · have h : ∀ before outer, s.frames ≠ .token before true :: outer :=
          fun before outer he => h ⟨before, outer, he⟩
        exact Or.inr (Or.inr (Or.inr ⟨rfl, h, read_close_kept h rest⟩))

theorem stripFrom_cons (s : Scan) (c : Char) (rest : List Char) :
    stripFrom s.frames s.out s.removed (c :: rest) =
      stripFrom (s.read c rest).frames (s.read c rest).out (s.read c rest).removed rest := by
  obtain ⟨frames, out, removed⟩ := s
  simp only [stripFrom, read]
  split
  · rfl
  · split
    · rcases frames with _ | ⟨⟨before, _ | _⟩ | _, outer⟩
      · rfl
      · rfl
      · rfl
      · rfl
    · rfl

theorem stripFrom_append (s : Scan) (source rest : List Char) :
    stripFrom s.frames s.out s.removed (source ++ rest) =
      stripFrom (s.readAll source rest).frames (s.readAll source rest).out
        (s.readAll source rest).removed rest := by
  induction source generalizing s with
  | nil => rfl
  | cons c more ih =>
    rw [List.cons_append, stripFrom_cons, ih]
    rfl

/-- The machine is stripping. -/
theorem stripFrom_start (text : List Char) :
    stripFrom [] [] false text = ((finish text).out.reverse, (finish text).removed) := by
  have h := stripFrom_append start text []
  rw [List.append_nil] at h
  exact h

theorem readAll_append (s : Scan) (a b rest : List Char) :
    s.readAll (a ++ b) rest = (s.readAll a (b ++ rest)).readAll b rest := by
  induction a generalizing s with
  | nil => rfl
  | cons c more ih =>
    simp only [List.cons_append, readAll, ih, List.append_assoc]

/-- What holds at the start of a text and is kept by every character holds at its end. -/
theorem readAll_invariant {p : List Char → Scan → List Char → Prop}
    (step : ∀ source s c rest, p source s (c :: rest) → p (source ++ [c]) (s.read c rest) rest)
    {source : List Char} {s : Scan} {text rest : List Char} (h : p source s (text ++ rest)) :
    p (source ++ text) (s.readAll text rest) rest := by
  induction text generalizing source s with
  | nil => simpa [readAll] using h
  | cons c more ih =>
    have hn := ih (step source s c (more ++ rest) h)
    rwa [List.append_assoc] at hn

theorem removed_read {s : Scan} (h : s.removed = true) (c : Char) (rest : List Char) :
    (s.read c rest).removed = true := by
  rcases read_cases s c rest with ⟨-, hr⟩ | ⟨-, hr⟩ | ⟨-, _, _, -, hr⟩ | ⟨-, -, hr⟩
  · rw [hr, h]
  · rw [hr, h]
  · rw [hr]
  · rw [hr, h]

theorem removed_readAll {s : Scan} (h : s.removed = true) (text rest : List Char) :
    (s.readAll text rest).removed = true :=
  @readAll_invariant (fun _ s _ => s.removed = true) (fun _ _ c rest h => removed_read h c rest)
    [] s text rest h

end Scan
end ReplyActions.Token
