import OpenStudioOperator.StatusStoreLaws

/-!
# Acting and recording

The handlers act in one shape: a mutation that `spec.dryRun` withholds, an
Event, and the write that records it.  The first raise cuts the block short,
so the mutation can have happened without its record.
-/

namespace OpenStudioOperator

open Foundation

/-- What `mutateUnless` leaves on the trace when it goes through. -/
def actEvent (config : OperatorConfig) (m : Mutation) : Event :=
  if config.dryRun then .suppressed m else .mutate m (.ok ())

/-- A mutation, its Event and its record, cut short by the first raise. -/
inductive Acts (t : Tick) (m : Mutation) (type : EventType) (reason : String)
    (op : StoreOp) (Wrote : Except Exc Unit -> Status -> Status -> Prop)
    (w : World) : World -> Prop where
  | failed (e : Exc) : t.config.dryRun = false ->
      Acts t m type reason op Wrote w (w.log t.env.now (.mutate m (.error e)))
  | unannounced (message : String) (e : Exc) :
      Acts t m type reason op Wrote w
        ((w.log t.env.now (actEvent t.config m)).log t.env.now
          (.emit type reason message (.error e)))
  | recorded (message : String) (r : Except Exc Unit) (s : Status) :
      Wrote r w.status s ->
      Acts t m type reason op Wrote w
        (((w.log t.env.now (actEvent t.config m)).log t.env.now
          (.emit type reason message (.ok ()))).commit t.env.now op r s)

section Acts

variable {t : Tick} {w w' : World} {m : Mutation} {type : EventType}
variable {reason : String} {op : StoreOp}
variable {Wrote : Except Exc Unit -> Status -> Status -> Prop}

theorem actEvent_cases (config : OperatorConfig) (m : Mutation) :
    actEvent config m = .mutate m (.ok ()) ∨ actEvent config m = .suppressed m := by
  unfold actEvent
  split_ifs
  · exact Or.inr rfl
  · exact Or.inl rfl

theorem actEvent_ne_tickStart (config : OperatorConfig) (m : Mutation)
    (config' : OperatorConfig) : actEvent config m ≠ .tickStart config' := by
  unfold actEvent
  split_ifs <;> simp

theorem Acts.appends (h : Acts t m type reason op Wrote w w') : Appends t w w' := by
  have hstart := Appends.refl t w
  cases h with
  | failed e _ => exact hstart.log (by simp)
  | unannounced message e =>
      exact (hstart.log (actEvent_ne_tickStart _ _)).log (by simp)
  | recorded message r s _ =>
      exact ((hstart.log (actEvent_ne_tickStart _ _)).log (by simp)).commit

theorem Acts.status_cases (h : Acts t m type reason op Wrote w w') :
    w'.status = w.status ∨ exists r, Wrote r w.status w'.status := by
  cases h with
  | failed e _ => exact Or.inl rfl
  | unannounced message e => exact Or.inl rfl
  | recorded message r s hwrote => exact Or.inr ⟨r, hwrote⟩

theorem Acts.idle {p : Event -> Prop}
    (h : Acts t m type reason op Wrote w w') (hcall : forall r, ¬ p (.mutate m r))
    (hmark : ¬ p (.suppressed m))
    (hemit : forall message r, ¬ p (.emit type reason message r))
    (hop : forall r, ¬ p (.store op r)) : Idle p w w' := by
  have hact : Idle p w (w.log t.env.now (actEvent t.config m)) := by
    apply (Idle.refl p w).log
    unfold actEvent
    split_ifs
    · exact hmark
    · exact hcall _
  cases h with
  | failed e _ => exact (Idle.refl p w).log _ (hcall _)
  | unannounced message e => exact hact.log _ (hemit _ _)
  | recorded message r s _ => exact (hact.log _ (hemit _ _)).commit _ _ (hop r)

/-- A mutation, its Event and one map write are a block of calls. -/
theorem wp_acts {value : Type} [DecidableEq value] {field : MapField value}
    {key : String} {encoded : Option value} {message : String} {Q E : World -> Prop}
    (hwrote : forall w', Wrote (answerOf (setOutcome op field key encoded t.env w').result)
      w'.status (setOutcome op field key encoded t.env w').final)
    (hstopped : forall w', Acts t m type reason op Wrote w w' -> E w')
    (hrecorded : forall s, Wrote (.ok ()) w.status s ->
      Q (((w.log t.env.now (actEvent t.config m)).log t.env.now
        (.emit type reason message (.ok ()))).commit t.env.now op (.ok ()) s))
    (hcapped : forall w' text, Q w' ->
      Q (w'.log t.env.now (.statusMapCapped field.name text (.ok ()))))
    (hunreported : forall w' text e, Q w' ->
      E (w'.log t.env.now (.statusMapCapped field.name text (.error e)))) :
    Prog.wp
      (do
        mutateUnless t.config.dryRun m
        emit type reason message
        setMapEntry op field key encoded)
      t.env w (fun _ w' => Q w') (fun _ w' => E w') := by
  have hrest : Prog.wp
      (do
        emit type reason message
        setMapEntry op field key encoded)
      t.env (w.log t.env.now (actEvent t.config m))
      (fun _ w' => Q w') (fun _ w' => E w') := by
    rw [Prog.wp_bind]
    apply wp_call
    · intro _ _
      apply wp_setMapEntry_of (hwrote _)
      · intro s hwrite
        exact hrecorded s hwrite
      · intro s e hwrite
        exact hstopped _ (.recorded message (.error e) s hwrite)
      · exact hcapped
      · exact hunreported
    · intro e _
      exact hstopped _ (.unannounced message e)
  rw [Prog.wp_bind]
  unfold mutateUnless
  apply Prog.wp_ite
  · intro hdry
    rw [wp_note]
    rw [actEvent, if_pos hdry] at hrest
    exact hrest
  · intro hlive
    apply wp_call
    · intro _ _
      rw [actEvent, if_neg hlive] at hrest
      exact hrest
    · intro e _
      exact hstopped _ (.failed e (by simpa using hlive))

end Acts

end OpenStudioOperator
