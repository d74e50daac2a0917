import SkillDispatch.Program.Search

set_option autoImplicit false

namespace SkillDispatch.Program

variable {α β : Type}

/-- From a table, the run ends with a value and a table that satisfy a condition. -/
def Yields (run : Run α) (memo : Memo) (post : α → Memo → Prop) : Prop :=
  ∃ value after, run memo = some (.ok (value, after)) ∧ post value after

namespace Yields

variable {run : Run α} {memo : Memo} {post : α → Memo → Prop}

theorem pure {value : α} (holds : post value memo) : Yields (Pure.pure value) memo post :=
  ⟨value, memo, rfl, holds⟩

theorem lift {checked : Checked α} {value : α} (isValue : checked = .ok value)
    (holds : post value memo) : Yields (liftM checked) memo post := by
  subst isValue
  exact ⟨value, memo, rfl, holds⟩

theorem bind {next : α → Run β} {post : β → Memo → Prop} {between : α → Memo → Prop}
    (first : Yields run memo between)
    (second : ∀ value after, between value after → Yields (next value) after post) :
    Yields (run >>= next) memo post := by
  obtain ⟨value, after, isFirst, holds⟩ := first
  obtain ⟨result, last, isSecond, satisfied⟩ := second value after holds
  refine ⟨result, last, ?_, satisfied⟩
  show (ExceptT.bind (run memo) fun pair => next pair.1 pair.2) = _
  rw [ExceptT.bind, isFirst]
  exact isSecond

theorem mono {weaker : α → Memo → Prop} (yields : Yields run memo post)
    (implies : ∀ value after, post value after → weaker value after) : Yields run memo weaker := by
  obtain ⟨value, after, isResult, holds⟩ := yields
  exact ⟨value, after, isResult, implies value after holds⟩

theorem bind_lift {checked : Checked α} {value : α} {next : α → Run β}
    {post : β → Memo → Prop} (isValue : checked = .ok value)
    (second : Yields (next value) memo post) : Yields (liftM checked >>= next) memo post := by
  have atOnce : Yields (liftM checked) memo fun result after => result = value ∧ after = memo :=
    lift isValue ⟨rfl, rfl⟩
  refine bind atOnce ?_
  rintro _ _ ⟨rfl, rfl⟩
  exact second

theorem bind_get {next : Memo → Run β} {post : β → Memo → Prop}
    (second : Yields (next memo) memo post) : Yields (get >>= next) memo post :=
  second

theorem bind_set {next : PUnit → Run β} {post : β → Memo → Prop} {after : Memo}
    (second : Yields (next ⟨⟩) after post) : Yields (set after >>= next) memo post :=
  second

/-- A loop keeps what each step of it keeps, and `track` follows what the steps have done. -/
theorem foldlM {γ : Type} {step : α → β → Run α} {track : γ → β → γ}
    {holds : α → γ → Memo → Prop} {items : List β}
    (each : ∀ item ∈ items, ∀ value state memo, holds value state memo →
      Yields (step value item) memo fun result after => holds result (track state item) after)
    {value : α} {state : γ} (initial : holds value state memo) :
    Yields (items.foldlM step value) memo fun result after =>
      holds result (items.foldl track state) after := by
  induction items generalizing value state memo with
  | nil => exact pure initial
  | cons item rest ih =>
    rw [List.foldlM_cons, List.foldl_cons]
    refine bind (each item List.mem_cons_self value state memo initial) ?_
    intro result after kept
    apply ih
    · intro other member
      exact each other (List.mem_cons_of_mem item member)
    · exact kept

end Yields

/-- Where one run ends, another one ends the same. -/
def Run.Follows (run other : Run α) : Prop :=
  ∀ memo outcome, other memo = some outcome → run memo = some outcome

namespace Run.Follows

theorem refl (run : Run α) : run.Follows run :=
  fun _ _ ends => ends

theorem of_never (run : Run α) : run.Follows fun _ => ExceptT.mk none := by
  intro memo outcome ends
  cases ends

theorem bind {run other : Run α} {next otherNext : α → Run β} (follows : run.Follows other)
    (later : ∀ value, (next value).Follows (otherNext value)) :
    (run >>= next).Follows (other >>= otherNext) := by
  intro memo outcome ends
  have unfolds : ∀ (first : Run α) (second : α → Run β), (first >>= second) memo =
      ExceptT.bind (first memo) fun pair => second pair.1 pair.2 := fun _ _ => rfl
  rw [unfolds, ExceptT.bind] at ends ⊢
  cases isFirst : other memo with
  | none =>
    rw [isFirst] at ends
    cases ends
  | some first =>
    rw [isFirst] at ends
    rw [follows memo first isFirst]
    cases first with
    | error crash => exact ends
    | ok pair => exact later pair.1 pair.2 outcome ends

theorem bind_left {run other : Run α} (follows : run.Follows other) (next : α → Run β) :
    (run >>= next).Follows (other >>= next) :=
  follows.bind fun value => refl (next value)

theorem bind_right (run : Run α) {next otherNext : α → Run β}
    (later : ∀ value, (next value).Follows (otherNext value)) :
    (run >>= next).Follows (run >>= otherNext) :=
  (refl run).bind later

theorem foldlM {step otherStep : α → β → Run α}
    (each : ∀ value item, (step value item).Follows (otherStep value item)) (items : List β)
    (value : α) : (items.foldlM step value).Follows (items.foldlM otherStep value) := by
  induction items generalizing value with
  | nil => exact refl _
  | cons item rest ih =>
    rw [List.foldlM_cons, List.foldlM_cons]
    exact (each value item).bind ih

end Run.Follows

end SkillDispatch.Program
