import Mathlib.Data.List.TakeWhile
import ReplyActions.Command.Arguments
import ReplyActions.Proofs.Number.Decimal

/-!
# Command lines for replies

Whatever a reply says, there is a command line that asks for it to be carried out: behind an equals
sign, every text is taken as it is.
-/

namespace ReplyActions.Command
open Number

/-! ### One argument -/

/-- An option with its value in one argument. -/
def withValue (name value : String) : String := "--" ++ name ++ "=" ++ value

theorem toList_withValue (name value : String) :
    (withValue name value).toList = '-' :: '-' :: (name.toList ++ '=' :: value.toList) := by
  simp [withValue]

theorem longOption?_withValue {name : String} (h : '=' ∉ name.toList) (value : String) :
    longOption? (withValue name value) = some (name, some value) := by
  have hname : ∀ c ∈ name.toList, (c != '=') = true := by
    intro c hc
    rw [bne_iff_ne]
    rintro rfl
    exact h hc
  have hstop : ('=' != '=') = false := by decide
  have htake : (name.toList ++ '=' :: value.toList).takeWhile (· != '=') = name.toList := by
    rw [List.takeWhile_append_of_pos hname, List.takeWhile_cons, hstop]
    exact List.append_nil _
  have hdrop : (name.toList ++ '=' :: value.toList).dropWhile (· != '=') =
      '=' :: value.toList := by
    rw [List.dropWhile_append_of_pos hname, List.dropWhile_cons, hstop]
    rfl
  simp only [longOption?, toList_withValue, htake, hdrop, String.ofList_toList]

theorem tickOf?_natText (tick : Tick) : tickOf? (natText tick.val) = some tick := by
  have hplus : '+' ∉ natDigits tick.val := fun h => absurd (isDigit_of_mem_natDigits h) (by decide)
  simp only [tickOf?, natText, String.toList_ofList]
  split
  · next rest hrest => exact absurd (hrest ▸ List.mem_cons_self) hplus
  · rw [natOf?_natDigits, Option.bind_some, Unsigned.ofInt?_val]

/-! ### Whole command lines -/

/-- The command line for a reply at a time. -/
def dispatchArgs (session : SessionOptions) (text : String) : List String :=
  "dispatch" :: ([withValue "agent" session.agent] ++ ([withValue "at" (natText session.now.val)] ++
    (session.config.toList.map (withValue "config") ++
      (session.quotaState.toList.map (withValue "quota-state") ++
        ([withValue "text" text] ++ ["--write-agent"])))))

/-- The arguments add these values to those that have been found before. -/
def Collects (args : List String) (before after : List (String × String)) : Prop :=
  args.foldlM (Found.next .dispatch dispatchOptions) ⟨before, none, false⟩ =
    .ok ⟨after, none, false⟩

section

variable {args rest : List String} {before middle after : List (String × String)}

theorem Collects.append (h : Collects args before middle) (hrest : Collects rest middle after) :
    Collects (args ++ rest) before after := by
  rw [Collects, List.foldlM_append, h]
  exact hrest

theorem collects_value (spec : OptionSpec) {value : String}
    (hspec : dispatchOptions.find? (·.name = spec.name) = some spec)
    (hname : '=' ∉ spec.name.toList) (hkind : spec.kind ≠ .flag)
    (hnew : before.any (·.1 = spec.name) = false) (haccepts : spec.kind.accepts value = true) :
    Collects [withValue spec.name value] before ((spec.name, value) :: before) := by
  have hne : withValue spec.name value ≠ "--" := by
    intro heq
    have hlist := congrArg String.toList heq
    rw [toList_withValue] at hlist
    simp at hlist
  simp only [Collects, List.foldlM_cons, List.foldlM_nil, Found.next, hne,
    longOption?_withValue hname, hspec, hkind, Found.add, hnew, haccepts, Bool.false_eq_true,
    Bool.or_true, if_false, if_true]
  rfl

/-- An option that may be left out. -/
theorem collects_optional (spec : OptionSpec) {given : Option String}
    (hspec : dispatchOptions.find? (·.name = spec.name) = some spec)
    (hname : '=' ∉ spec.name.toList) (hkind : spec.kind ≠ .flag)
    (hnew : before.any (·.1 = spec.name) = false)
    (haccepts : ∀ value ∈ given, spec.kind.accepts value = true) :
    Collects (given.toList.map (withValue spec.name)) before
      (given.toList.map (Prod.mk spec.name) ++ before) := by
  cases given with
  | none => rfl
  | some value => exact collects_value spec hspec hname hkind hnew (haccepts value rfl)

end

theorem accepts_of_ne_some_empty {given : Option String} (h : given ≠ some "") :
    ∀ value ∈ given, OptionKind.path.accepts value = true := by
  rintro value hvalue
  refine decide_eq_true ?_
  rintro rfl
  exact h hvalue

/-- What the options of a session come to, newest first. -/
def valuesOf (session : SessionOptions) : List (String × String) :=
  session.quotaState.toList.map (Prod.mk "quota-state") ++
    (session.config.toList.map (Prod.mk "config") ++
      [("at", natText session.now.val), ("agent", session.agent)])

theorem collects_dispatchArgs {session : SessionOptions} (hagent : session.agent ≠ "")
    (hconfig : session.config ≠ some "") (hquota : session.quotaState ≠ some "") (text : String) :
    Collects (dispatchArgs session text).tail []
      (("write-agent", "") :: ("text", text) :: valuesOf session) := by
  obtain ⟨agent, now, config, quota⟩ := session
  have htick : OptionKind.tick.accepts (natText now.val) = true := by
    simp only [OptionKind.accepts, tickOf?_natText, Option.isSome_some]
  have hnoQuota : (config.toList.map (Prod.mk "config") ++
      [("at", natText now.val), ("agent", agent)]).any (·.1 = "quota-state") = false := by
    cases config <;> rfl
  have hnoText : (valuesOf ⟨agent, now, config, quota⟩).any (·.1 = "text") = false := by
    cases config <;> cases quota <;> rfl
  have hagent : Collects [withValue "agent" agent] [] [("agent", agent)] :=
    collects_value ⟨"agent", .path⟩ rfl (by decide) (by decide) rfl (decide_eq_true hagent)
  have hat : Collects [withValue "at" (natText now.val)] [("agent", agent)]
      [("at", natText now.val), ("agent", agent)] :=
    collects_value ⟨"at", .tick⟩ rfl (by decide) (by decide) rfl htick
  have hconfig : Collects (config.toList.map (withValue "config"))
      [("at", natText now.val), ("agent", agent)] _ :=
    collects_optional ⟨"config", .path⟩ rfl (by decide) (by decide) rfl
      (accepts_of_ne_some_empty hconfig)
  have hquota : Collects (quota.toList.map (withValue "quota-state")) _
      (valuesOf ⟨agent, now, config, quota⟩) :=
    collects_optional ⟨"quota-state", .path⟩ rfl (by decide) (by decide) hnoQuota
      (accepts_of_ne_some_empty hquota)
  have htext : Collects [withValue "text" text] (valuesOf ⟨agent, now, config, quota⟩)
      (("text", text) :: valuesOf ⟨agent, now, config, quota⟩) :=
    collects_value ⟨"text", .text⟩ rfl (by decide) (by decide) hnoText rfl
  have hwrite : Collects ["--write-agent"] (("text", text) :: valuesOf ⟨agent, now, config, quota⟩)
      (("write-agent", "") :: ("text", text) :: valuesOf ⟨agent, now, config, quota⟩) := by
    cases config <;> cases quota <;> rfl
  exact hagent.append <| hat.append <| hconfig.append <| hquota.append <| htext.append hwrite

theorem requestOf_dispatchArgs {session : SessionOptions} (hagent : session.agent ≠ "")
    (hconfig : session.config ≠ some "") (hquota : session.quotaState ≠ some "") (text : String) :
    requestOf (dispatchArgs session text) = .ok (.dispatch session text none true) := by
  have hfound : optionsOf .dispatch dispatchOptions (dispatchArgs session text).tail =
      .ok ⟨("write-agent", "") :: ("text", text) :: valuesOf session, none, false⟩ := by
    have hargs := collects_dispatchArgs hagent hconfig hquota text
    rw [optionsOf, Found.start, show _ = _ from hargs]
    rfl
  have hrequest : requestOf (dispatchArgs session text) = (do
      let found ← optionsOf .dispatch dispatchOptions (dispatchArgs session text).tail
      return .dispatch (← sessionOf found) (← found.require "text") (found.get? "log")
        (found.has "write-agent")) := rfl
  rw [hrequest, hfound]
  obtain ⟨agent, now, config, quota⟩ := session
  have hresult : ∀ config quota : Option String, (do
      let found ← (.ok ⟨("write-agent", "") :: ("text", text) ::
        valuesOf ⟨agent, now, config, quota⟩, none, false⟩ : Except Stop Found)
      return Request.dispatch (← sessionOf found) (← found.require "text") (found.get? "log")
        (found.has "write-agent")) = .ok (.dispatch ⟨agent,
          (tickOf? (natText now.val)).getD 0, config, quota⟩ text none true) := by
    intro config quota
    cases config <;> cases quota <;> rfl
  rw [hresult, tickOf?_natText, Option.getD_some]

end ReplyActions.Command
