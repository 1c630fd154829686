import Mathlib.Logic.Basic

/-!
# Read-modify-write with conflict retries

A mutation reads the shared state, computes a patch from what it read, and
sends the patch; a conflict answer restarts the cycle from a fresh read.
Other writers may change the state before every read and before every patch.

The patch type and its application are parameters, so the same loop serves
every representation of the state.
-/

namespace Foundation

/-- How the server answered one patch.  A conflict leaves the state alone; a
raise may have been applied before the answer was lost. -/
inductive PatchAnswer (exc : Type) where
  | ok
  | conflict
  | raised (e : exc) (applied : Bool)
deriving DecidableEq, Repr

/-- The server's side of one mutation, indexed by the attempt. -/
structure Server (state exc : Type) where
  beforeRead : Nat -> state -> state
  read : Nat -> Option exc
  beforePatch : Nat -> state -> state
  patch : Nat -> PatchAnswer exc

/-- One issued patch: the state it was computed from, the state it met. -/
structure Attempt (state patch exc : Type) where
  readState : state
  sent : patch
  target : state
  answer : PatchAnswer exc

def PatchAnswer.applied {exc : Type} : PatchAnswer exc -> Bool
  | .ok => true
  | .conflict => false
  | .raised _ applied => applied

structure RmwOutcome (state patch exc acc : Type) where
  result : Except exc acc
  attempts : List (Attempt state patch exc)
  final : state

/-- The patch that reached the state. -/
def RmwOutcome.applied {state patch exc acc : Type}
    (out : RmwOutcome state patch exc acc) : Option (Attempt state patch exc) :=
  out.attempts.find? fun attempt => attempt.answer.applied

namespace ReadModifyWrite

variable {state patch exc acc : Type}

/-- The retry loop.  `fuel` is the number of attempts left and
`attempt` the index of the next one. -/
def run (server : Server state exc) (apply : patch -> state -> state)
    (build : acc -> state -> Except exc (Option patch × acc))
    (exhausted : exc) :
    (fuel attempt : Nat) -> acc -> state -> RmwOutcome state patch exc acc
  | 0, _, _, s => ⟨.error exhausted, [], s⟩
  | fuel + 1, attempt, a, s =>
      let s1 := server.beforeRead attempt s
      match server.read attempt with
      | some e => ⟨.error e, [], s1⟩
      | none =>
          match build a s1 with
          | .error e => ⟨.error e, [], s1⟩
          | .ok (none, a') => ⟨.ok a', [], s1⟩
          | .ok (some p, a') =>
              let s2 := server.beforePatch attempt s1
              let issued := Attempt.mk s1 p s2 (server.patch attempt)
              match server.patch attempt with
              | .ok => ⟨.ok a', [issued], apply p s2⟩
              | .raised e true => ⟨.error e, [issued], apply p s2⟩
              | .raised e false => ⟨.error e, [issued], s2⟩
              | .conflict =>
                  let later := run server apply build exhausted
                    fuel (attempt + 1) a' s2
                  ⟨later.result, issued :: later.attempts, later.final⟩

/-!
## What a mutation can do to a part of the state

A part of the state that no other writer touches, and that every patch
computed from it takes to a related part, is left alone or changed exactly
once; a normal return means it was changed.
-/

section Part

variable {part : Type}

/-- The viewed part went from `old` to a part that meets `New`; a raise may
have left it. -/
def Changes (view : state -> part) (old : part) (New : part -> Prop)
    (out : RmwOutcome state patch exc acc) : Prop :=
  match out.result with
  | .ok _ => New (view out.final)
  | .error _ => view out.final = old ∨ New (view out.final)

variable {server : Server state exc} {apply : patch -> state -> state}
variable {build : acc -> state -> Except exc (Option patch × acc)}
variable {exhausted : exc}

theorem run_changes (view : state -> part) (R : part -> part -> Prop)
    (hread : forall n s, view (server.beforeRead n s) = view s)
    (hpatch : forall n s, view (server.beforePatch n s) = view s)
    (hsome : forall a s p a', build a s = .ok (some p, a') ->
      forall t, view t = view s -> R (view s) (view (apply p t)))
    (hnone : forall a s a', build a s = .ok (none, a') ->
      R (view s) (view s)) :
    forall (fuel attempt : Nat) (a : acc) (s : state),
      Changes view (view s) (R (view s))
        (run server apply build exhausted fuel attempt a s) := by
  intro fuel
  induction fuel with
  | zero =>
      intro attempt a s
      exact Or.inl rfl
  | succ fuel ih =>
      intro attempt a s
      have hs1 := hread attempt s
      cases hget : server.read attempt with
      | some e =>
          simp only [Changes, run, hget]
          exact Or.inl hs1
      | none =>
          cases hbuild : build a (server.beforeRead attempt s) with
          | error e =>
              simp only [Changes, run, hget, hbuild]
              exact Or.inl hs1
          | ok built =>
              rcases built with ⟨_ | p, a'⟩
              · have hsame := hnone _ _ _ hbuild
                simp only [Changes, run, hget, hbuild]
                rw [hs1] at hsame ⊢
                exact hsame
              · have hs2 := hpatch attempt (server.beforeRead attempt s)
                have happlied := hsome _ _ _ _ hbuild _ hs2
                rw [hs1] at hs2 happlied
                cases hanswer : server.patch attempt with
                | ok =>
                    simp only [Changes, run, hget, hbuild, hanswer]
                    exact happlied
                | raised e applied =>
                    cases applied with
                    | true =>
                        simp only [Changes, run, hget, hbuild, hanswer]
                        exact Or.inr happlied
                    | false =>
                        simp only [Changes, run, hget, hbuild, hanswer]
                        exact Or.inl hs2
                | conflict =>
                    -- the retry starts from the same viewed part
                    have hlater := ih (attempt + 1) a'
                      (server.beforePatch attempt (server.beforeRead attempt s))
                    rw [hs2] at hlater
                    simpa only [Changes, run, hget, hbuild, hanswer] using hlater

/-- A part of the state that neither other writers nor the patches touch. -/
theorem run_frame (view : state -> part)
    (hread : forall n s, view (server.beforeRead n s) = view s)
    (hpatch : forall n s, view (server.beforePatch n s) = view s)
    (hsome : forall p t, view (apply p t) = view t)
    (fuel attempt : Nat) (a : acc) (s : state) :
    view (run server apply build exhausted fuel attempt a s).final =
      view s := by
  have hsame : Changes view (view s) (fun v => v = view s)
      (run server apply build exhausted fuel attempt a s) := by
    apply run_changes view (fun old new => new = old) hread hpatch
    · intro a s p a' _ t ht
      rw [hsome, ht]
    · intro a s a' _
      rfl
  unfold Changes at hsame
  split at hsame
  · exact hsame
  · exact hsame.elim id id

end Part

section Invariant

variable {server : Server state exc} {apply : patch -> state -> state}
variable {build : acc -> state -> Except exc (Option patch × acc)}
variable {exhausted : exc}

/-- A property that other writers and the patches keep holds in the end. -/
theorem run_invariant (I : state -> Prop)
    (hread : forall n s, I s -> I (server.beforeRead n s))
    (hpatch : forall n s, I s -> I (server.beforePatch n s))
    (hsome : forall a s p a', build a s = .ok (some p, a') -> I s ->
      forall t, I t -> I (apply p t)) :
    forall (fuel attempt : Nat) (a : acc) (s : state), I s ->
      I (run server apply build exhausted fuel attempt a s).final := by
  intro fuel
  induction fuel with
  | zero =>
      intro attempt a s hs
      exact hs
  | succ fuel ih =>
      intro attempt a s hs
      have hs1 := hread attempt s hs
      cases hget : server.read attempt with
      | some e => simpa only [run, hget] using hs1
      | none =>
          cases hbuild : build a (server.beforeRead attempt s) with
          | error e => simpa only [run, hget, hbuild] using hs1
          | ok built =>
              rcases built with ⟨_ | p, a'⟩
              · simpa only [run, hget, hbuild] using hs1
              · have hs2 := hpatch attempt _ hs1
                have happlied := hsome _ _ _ _ hbuild hs1 _ hs2
                cases hanswer : server.patch attempt with
                | ok => simpa only [run, hget, hbuild, hanswer] using happlied
                | raised e applied =>
                    cases applied with
                    | true => simpa only [run, hget, hbuild, hanswer] using happlied
                    | false => simpa only [run, hget, hbuild, hanswer] using hs2
                | conflict =>
                    have hlater := ih (attempt + 1) a' _ hs2
                    simpa only [run, hget, hbuild, hanswer] using hlater

/-- A mutation that returns leaves what its patches establish, whatever the
other writers did. -/
theorem run_returned (G : state -> Prop)
    (hsome : forall a s p a', build a s = .ok (some p, a') ->
      forall t, G (apply p t))
    (hnone : forall a s a', build a s = .ok (none, a') -> G s) :
    forall (fuel attempt : Nat) (a a' : acc) (s : state),
      (run server apply build exhausted fuel attempt a s).result = .ok a' ->
        G (run server apply build exhausted fuel attempt a s).final := by
  intro fuel
  induction fuel with
  | zero =>
      intro attempt a a' s hresult
      cases hresult
  | succ fuel ih =>
      intro attempt a a' s hresult
      unfold run at hresult ⊢
      cases hget : server.read attempt with
      | some e =>
          simp only [hget] at hresult
          cases hresult
      | none =>
          cases hbuild : build a (server.beforeRead attempt s) with
          | error e =>
              simp only [hget, hbuild] at hresult
              cases hresult
          | ok built =>
              rcases built with ⟨_ | p, a''⟩
              · simp only [hbuild]
                exact hnone _ _ _ hbuild
              · simp only [hget, hbuild] at hresult ⊢
                have happlied := hsome _ _ _ _ hbuild
                  (server.beforePatch attempt (server.beforeRead attempt s))
                cases hanswer : server.patch attempt with
                | ok => exact happlied
                | raised e applied =>
                    cases applied with
                    | true => exact happlied
                    | false =>
                        simp only [hanswer] at hresult
                        cases hresult
                | conflict =>
                    simp only [hanswer] at hresult
                    exact ih (attempt + 1) a'' a' _ hresult

/-- Every patch that was sent was computed from the state it was sent with. -/
theorem run_attempts :
    forall (fuel attempt : Nat) (a : acc) (s : state) (issued : Attempt state patch exc),
      issued ∈ (run server apply build exhausted fuel attempt a s).attempts ->
        exists before after, build before issued.readState = .ok (some issued.sent, after) := by
  intro fuel
  induction fuel with
  | zero =>
      intro attempt a s issued hmem
      exact absurd hmem List.not_mem_nil
  | succ fuel ih =>
      intro attempt a s issued hmem
      unfold run at hmem
      cases hget : server.read attempt with
      | some e =>
          simp only [hget] at hmem
          exact absurd hmem List.not_mem_nil
      | none =>
          cases hbuild : build a (server.beforeRead attempt s) with
          | error e =>
              simp only [hget, hbuild] at hmem
              exact absurd hmem List.not_mem_nil
          | ok built =>
              rcases built with ⟨_ | p, a''⟩
              · simp only [hget, hbuild] at hmem
                exact absurd hmem List.not_mem_nil
              · simp only [hget, hbuild] at hmem
                cases hanswer : server.patch attempt with
                | conflict =>
                    simp only [hanswer] at hmem
                    rcases List.mem_cons.mp hmem with hhere | hlater
                    · rw [hhere]
                      exact ⟨a, a'', hbuild⟩
                    · exact ih (attempt + 1) a'' _ issued hlater
                | ok =>
                    simp only [hanswer] at hmem
                    rw [List.mem_singleton.mp hmem]
                    exact ⟨a, a'', hbuild⟩
                | raised e applied =>
                    cases applied with
                    | true =>
                        simp only [hanswer] at hmem
                        rw [List.mem_singleton.mp hmem]
                        exact ⟨a, a'', hbuild⟩
                    | false =>
                        simp only [hanswer] at hmem
                        rw [List.mem_singleton.mp hmem]
                        exact ⟨a, a'', hbuild⟩

end Invariant

/-!
## The course of a run

A run is a row of attempts that a conflict answered, and then an attempt that
ends it, unless the row used all of them.
-/

section Course

variable (server : Server state exc) (apply : patch -> state -> state)
variable (build : acc -> state -> Except exc (Option patch × acc))

/-- Attempts that a conflict answered, from the attempt `n` to the attempt `m`. -/
inductive Conflicts : Nat -> acc -> state -> List (Attempt state patch exc) ->
    Nat -> acc -> state -> Prop where
  | nil {n : Nat} {a : acc} {s : state} : Conflicts n a s [] n a s
  | cons {n m : Nat} {a a' a'' : acc} {s s'' : state} {p : patch}
      {later : List (Attempt state patch exc)} :
      server.read n = none -> build a (server.beforeRead n s) = .ok (some p, a') ->
      server.patch n = .conflict ->
      Conflicts (n + 1) a' (server.beforePatch n (server.beforeRead n s)) later m a'' s'' ->
      Conflicts n a s
        (⟨server.beforeRead n s, p, server.beforePatch n (server.beforeRead n s),
          .conflict⟩ :: later) m a'' s''

/-- The attempt that ends a run, and the outcome it gives. -/
inductive Ends (n : Nat) (a : acc) (s : state) : RmwOutcome state patch exc acc -> Prop where
  | unread {e : exc} : server.read n = some e ->
      Ends n a s ⟨.error e, [], server.beforeRead n s⟩
  | unbuilt {e : exc} : server.read n = none ->
      build a (server.beforeRead n s) = .error e ->
      Ends n a s ⟨.error e, [], server.beforeRead n s⟩
  | skipped {a' : acc} : server.read n = none ->
      build a (server.beforeRead n s) = .ok (none, a') ->
      Ends n a s ⟨.ok a', [], server.beforeRead n s⟩
  | accepted {a' : acc} {p : patch} : server.read n = none ->
      build a (server.beforeRead n s) = .ok (some p, a') -> server.patch n = .ok ->
      Ends n a s ⟨.ok a',
        [⟨server.beforeRead n s, p, server.beforePatch n (server.beforeRead n s), .ok⟩],
        apply p (server.beforePatch n (server.beforeRead n s))⟩
  | refused {a' : acc} {p : patch} {e : exc} {applied : Bool} : server.read n = none ->
      build a (server.beforeRead n s) = .ok (some p, a') ->
      server.patch n = .raised e applied ->
      Ends n a s ⟨.error e,
        [⟨server.beforeRead n s, p, server.beforePatch n (server.beforeRead n s),
          .raised e applied⟩],
        if applied then apply p (server.beforePatch n (server.beforeRead n s))
        else server.beforePatch n (server.beforeRead n s)⟩

/-- What the moves of the other writers alone make of a state. -/
inductive OthersOnly : Nat -> state -> state -> Prop where
  | start {n : Nat} {s : state} : OthersOnly n s s
  | read {n : Nat} {s : state} : OthersOnly n s (server.beforeRead n s)
  | later {n : Nat} {s s' : state} :
      OthersOnly (n + 1) (server.beforePatch n (server.beforeRead n s)) s' ->
      OthersOnly n s s'

variable {server apply build} {exhausted : exc}
variable {n m : Nat} {a a' : acc} {s s' : state} {ts : List (Attempt state patch exc)}

theorem Conflicts.answer (h : Conflicts server build n a s ts m a' s') :
    forall t, t ∈ ts -> t.answer = .conflict := by
  induction h with
  | nil =>
      intro t ht
      cases ht
  | cons _ _ _ _ ih =>
      intro t ht
      rcases List.mem_cons.mp ht with heq | hlater
      · rw [heq]
      · exact ih t hlater

theorem Conflicts.index (h : Conflicts server build n a s ts m a' s') :
    m = n + ts.length := by
  induction h with
  | nil => rfl
  | cons _ _ _ _ ih =>
      rw [ih, List.length_cons]
      lia

theorem Conflicts.othersOnly (h : Conflicts server build n a s ts m a' s') {s'' : state}
    (hothers : OthersOnly server m s' s'') : OthersOnly server n s s'' := by
  induction h with
  | nil => exact hothers
  | cons _ _ _ _ ih => exact .later (ih hothers)

/-- A row of conflicts splits at each of its attempts. -/
theorem Conflicts.split (h : Conflicts server build n a s ts m a' s') :
    forall {earlier : List (Attempt state patch exc)} {t : Attempt state patch exc}
      {later : List (Attempt state patch exc)}, ts = earlier ++ t :: later ->
      exists b b' s0, Conflicts server build n a s earlier (n + earlier.length) b s0 ∧
        server.read (n + earlier.length) = none ∧
        t.readState = server.beforeRead (n + earlier.length) s0 ∧
        build b t.readState = .ok (some t.sent, b') ∧
        t.target = server.beforePatch (n + earlier.length) t.readState ∧
        t.answer = server.patch (n + earlier.length) := by
  induction h with
  | nil =>
      intro earlier t later heq
      cases earlier <;> cases heq
  | @cons n m a b a'' s s'' p rest hread hbuild hconflict _ ih =>
      intro earlier t later heq
      cases earlier with
      | nil =>
          cases heq
          exact ⟨a, b, s, .nil, hread, rfl, hbuild, rfl, hconflict.symm⟩
      | cons first earlier =>
          cases heq
          rcases ih rfl with ⟨c, c', s0, hearlier, hrest⟩
          have hindex : n + 1 + earlier.length = n + (earlier.length + 1) := by lia
          rw [hindex] at hearlier hrest
          exact ⟨c, c', s0, .cons hread hbuild hconflict hearlier, hrest⟩

/-- After its conflicts a run goes on as a run of its own. -/
theorem run_conflicts (h : Conflicts server build n a s ts m a' s') :
    forall fuel : Nat, run server apply build exhausted (ts.length + fuel) n a s =
      { run server apply build exhausted fuel m a' s' with
        attempts := ts ++ (run server apply build exhausted fuel m a' s').attempts } := by
  induction h with
  | nil =>
      intro fuel
      rw [List.length_nil, Nat.zero_add, List.nil_append]
  | @cons n m a b a'' s s'' p rest hread hbuild hconflict _ ih =>
      intro fuel
      have hfuel : (⟨server.beforeRead n s, p, server.beforePatch n (server.beforeRead n s),
          .conflict⟩ :: rest : List (Attempt state patch exc)).length + fuel =
            rest.length + fuel + 1 := by
        rw [List.length_cons]
        lia
      rw [hfuel]
      simp only [run, hread, hbuild, hconflict, ih fuel, List.cons_append]

theorem run_ends {out : RmwOutcome state patch exc acc}
    (h : Ends server apply build n a s out) (fuel : Nat) :
    run server apply build exhausted (fuel + 1) n a s = out := by
  cases h with
  | unread hread => simp only [run, hread]
  | unbuilt hread hbuild => simp only [run, hread, hbuild]
  | skipped hread hbuild => simp only [run, hread, hbuild]
  | accepted hread hbuild hpatch => simp only [run, hread, hbuild, hpatch]
  | @refused _ _ _ applied hread hbuild hpatch =>
      cases applied with
      | true => simp only [run, hread, hbuild, hpatch, if_true]
      | false => simp only [run, hread, hbuild, hpatch, Bool.false_eq_true, if_false]

/-- The course of every run. -/
theorem run_cases (server : Server state exc) (apply : patch -> state -> state)
    (build : acc -> state -> Except exc (Option patch × acc)) (exhausted : exc) :
    forall (fuel n : Nat) (a : acc) (s : state),
      exists ts m b s', Conflicts server build n a s ts m b s' ∧
        ((ts.length = fuel ∧
            run server apply build exhausted fuel n a s = ⟨.error exhausted, ts, s'⟩) ∨
          (ts.length < fuel ∧ exists out, Ends server apply build m b s' out ∧
            run server apply build exhausted fuel n a s =
              { out with attempts := ts ++ out.attempts })) := by
  intro fuel
  induction fuel with
  | zero =>
      intro n a s
      exact ⟨[], n, a, s, .nil, Or.inl ⟨rfl, rfl⟩⟩
  | succ fuel ih =>
      intro n a s
      have hends : forall out, Ends server apply build n a s out ->
          exists ts m b s', Conflicts server build n a s ts m b s' ∧
            ((ts.length = fuel + 1 ∧
                run server apply build exhausted (fuel + 1) n a s =
                  ⟨.error exhausted, ts, s'⟩) ∨
              (ts.length < fuel + 1 ∧ exists out, Ends server apply build m b s' out ∧
                run server apply build exhausted (fuel + 1) n a s =
                  { out with attempts := ts ++ out.attempts })) := by
        intro out hout
        refine ⟨[], n, a, s, .nil, Or.inr ⟨Nat.succ_pos fuel, out, hout, ?_⟩⟩
        rw [run_ends hout fuel, List.nil_append]
      cases hread : server.read n with
      | some e => exact hends _ (.unread hread)
      | none =>
          cases hbuild : build a (server.beforeRead n s) with
          | error e => exact hends _ (.unbuilt hread hbuild)
          | ok built =>
              rcases built with ⟨_ | p, b⟩
              · exact hends _ (.skipped hread hbuild)
              · cases hpatch : server.patch n with
                | ok => exact hends _ (.accepted hread hbuild hpatch)
                | raised e applied => exact hends _ (.refused hread hbuild hpatch)
                | conflict =>
                    rcases ih (n + 1) b (server.beforePatch n (server.beforeRead n s)) with
                      ⟨ts, m, c, s', hrest, hcourse⟩
                    refine ⟨_, m, c, s', .cons hread hbuild hpatch hrest, ?_⟩
                    rcases hcourse with ⟨hlength, hrun⟩ | ⟨hlength, out, hout, hrun⟩
                    · refine Or.inl ⟨congrArg Nat.succ hlength, ?_⟩
                      simp only [run, hread, hbuild, hpatch, hrun]
                    · refine Or.inr ⟨Nat.succ_lt_succ hlength, out, hout, ?_⟩
                      simp only [run, hread, hbuild, hpatch, hrun, List.cons_append]

theorem run_length_le (fuel n : Nat) (a : acc) (s : state) :
    (run server apply build exhausted fuel n a s).attempts.length <= fuel := by
  rcases run_cases server apply build exhausted fuel n a s with
    ⟨ts, m, b, s', _, ⟨hlength, hrun⟩ | ⟨hlength, out, hout, hrun⟩⟩
  · rw [hrun]
    exact Nat.le_of_eq hlength
  · rw [hrun, List.length_append]
    have hone : out.attempts.length <= 1 := by
      cases hout <;> simp
    exact Nat.le_trans (Nat.add_le_add_left hone _) hlength

/-- A conflict-free end follows its row of conflicts at once. -/
theorem run_of_course (h : Conflicts server build n a s ts m a' s') {fuel : Nat}
    (hfuel : ts.length < fuel) {out : RmwOutcome state patch exc acc}
    (hout : Ends server apply build m a' s' out) :
    run server apply build exhausted fuel n a s =
      { out with attempts := ts ++ out.attempts } := by
  have hsplit : fuel = ts.length + ((fuel - ts.length - 1) + 1) := by lia
  rw [hsplit, run_conflicts h, run_ends hout]

/-- The attempt that ends a run sends at most one patch, computed from its own
read. -/
theorem Ends.sends {out : RmwOutcome state patch exc acc}
    (h : Ends server apply build n a s out) :
    out.attempts = [] ∨ exists t b, out.attempts = [t] ∧ server.read n = none ∧
      t.readState = server.beforeRead n s ∧ build a t.readState = .ok (some t.sent, b) ∧
      t.target = server.beforePatch n t.readState ∧ t.answer = server.patch n := by
  cases h with
  | unread => exact Or.inl rfl
  | unbuilt => exact Or.inl rfl
  | skipped => exact Or.inl rfl
  | accepted hread hbuild hpatch =>
      exact Or.inr ⟨_, _, rfl, hread, rfl, hbuild, rfl, hpatch.symm⟩
  | refused hread hbuild hpatch =>
      exact Or.inr ⟨_, _, rfl, hread, rfl, hbuild, rfl, hpatch.symm⟩

/-- An element of a list with one more at its end is that one or in the list. -/
theorem split_append_singleton {alpha : Type} {x last : alpha} {later : List alpha} :
    forall {ts earlier : List alpha}, ts ++ [last] = earlier ++ x :: later ->
      (ts = earlier ∧ last = x) ∨ exists rest, ts = earlier ++ x :: rest
  | [], [], h => by
      cases h
      exact Or.inl ⟨rfl, rfl⟩
  | [], first :: earlier, h => by
      rw [List.nil_append, List.cons_append, List.cons.injEq] at h
      exact absurd h.2.symm (List.append_ne_nil_of_right_ne_nil _ (List.cons_ne_nil _ _))
  | t :: ts, [], h => by
      rw [List.nil_append, List.cons_append, List.cons.injEq] at h
      exact Or.inr ⟨ts, by rw [h.1, List.nil_append]⟩
  | t :: ts, first :: earlier, h => by
      rw [List.cons_append, List.cons_append, List.cons.injEq] at h
      rcases split_append_singleton h.2 with ⟨hts, hlast⟩ | ⟨rest, hts⟩
      · exact Or.inl ⟨by rw [h.1, hts], hlast⟩
      · exact Or.inr ⟨rest, by rw [h.1, hts, List.cons_append]⟩

/-- Every patch is sent after conflicts only, and computed from the state that
was read just before. -/
theorem run_split {fuel : Nat} {earlier later : List (Attempt state patch exc)}
    {t : Attempt state patch exc}
    (h : (run server apply build exhausted fuel n a s).attempts = earlier ++ t :: later) :
    exists b b' s0, Conflicts server build n a s earlier (n + earlier.length) b s0 ∧
      server.read (n + earlier.length) = none ∧
      t.readState = server.beforeRead (n + earlier.length) s0 ∧
      build b t.readState = .ok (some t.sent, b') ∧
      t.target = server.beforePatch (n + earlier.length) t.readState ∧
      t.answer = server.patch (n + earlier.length) := by
  rcases run_cases server apply build exhausted fuel n a s with
    ⟨ts, m, b, s', hconflicts, ⟨_, hrun⟩ | ⟨_, out, hout, hrun⟩⟩
  · rw [hrun] at h
    exact hconflicts.split h
  · rw [hrun] at h
    rcases hout.sends with hnil | ⟨last, b', hone, hsent⟩
    · rw [hnil, List.append_nil] at h
      exact hconflicts.split h
    · rw [hone] at h
      rcases split_append_singleton h with ⟨hts, hlast⟩ | ⟨rest, hts⟩
      · have hindex := hconflicts.index
        subst hts hlast hindex
        exact ⟨b, b', s', hconflicts, hsent⟩
      · exact hconflicts.split hts

/-- A normal return: the newest patch was accepted and is the only one applied,
or the builder declined and none was. -/
theorem run_returned_cases {fuel : Nat}
    (h : (run server apply build exhausted fuel n a s).result = .ok a') :
    (exists earlier last m b s', (run server apply build exhausted fuel n a s).attempts =
        earlier ++ [last] ∧ last.answer = .ok ∧
        Conflicts server build n a s earlier m b s' ∧
        last.readState = server.beforeRead m s' ∧
        build b last.readState = .ok (some last.sent, a') ∧
        last.target = server.beforePatch m last.readState ∧
        (run server apply build exhausted fuel n a s).attempts.filter
          (fun t => t.answer.applied) = [last] ∧
        (run server apply build exhausted fuel n a s).final = apply last.sent last.target) ∨
      (exists m b s', Conflicts server build n a s
          (run server apply build exhausted fuel n a s).attempts m b s' ∧
        server.read m = none ∧ build b (server.beforeRead m s') = .ok (none, a') ∧
        (run server apply build exhausted fuel n a s).attempts.filter
          (fun t => t.answer.applied) = [] ∧
        (run server apply build exhausted fuel n a s).final = server.beforeRead m s') := by
  rcases run_cases server apply build exhausted fuel n a s with
    ⟨ts, m, b, s', hconflicts, ⟨_, hrun⟩ | ⟨_, out, hout, hrun⟩⟩
  · rw [hrun] at h
    cases h
  · have hnone : ts.filter (fun t => t.answer.applied) = [] := by
      rw [List.filter_eq_nil_iff]
      intro t ht
      rw [hconflicts.answer t ht]
      exact Bool.false_ne_true
    rw [hrun] at h ⊢
    cases hout with
    | skipped hread hbuild =>
        cases h
        simp only [List.append_nil]
        exact Or.inr ⟨m, b, s', hconflicts, hread, hbuild, hnone, rfl⟩
    | accepted hread hbuild hpatch =>
        cases h
        refine Or.inl ⟨ts, _, m, b, s', rfl, rfl, hconflicts, rfl, hbuild, rfl, ?_, rfl⟩
        rw [List.filter_append, hnone]
        rfl
    | unread => cases h
    | unbuilt => cases h
    | refused => cases h

/-- A run gives up exactly when a conflict answered every attempt. -/
theorem run_exhausted_iff {fuel : Nat} (hread : forall k, server.read k ≠ some exhausted)
    (hbuild : forall b s0, build b s0 ≠ .error exhausted)
    (hpatch : forall k applied, server.patch k ≠ .raised exhausted applied) :
    (run server apply build exhausted fuel n a s).result = .error exhausted <->
      (run server apply build exhausted fuel n a s).attempts.length = fuel ∧
        forall t, t ∈ (run server apply build exhausted fuel n a s).attempts ->
          t.answer = .conflict := by
  rcases run_cases server apply build exhausted fuel n a s with
    ⟨ts, m, b, s', hconflicts, ⟨hlength, hrun⟩ | ⟨hlength, out, hout, hrun⟩⟩
  · rw [hrun]
    exact iff_of_true rfl ⟨hlength, hconflicts.answer⟩
  · rw [hrun]
    have hnot : out.result ≠ .error exhausted := by
      intro hresult
      cases hout with
      | unread hunread =>
          cases hresult
          exact hread m hunread
      | unbuilt _ hunbuilt =>
          cases hresult
          exact hbuild _ _ hunbuilt
      | refused _ _ hrefused =>
          cases hresult
          exact hpatch m _ hrefused
      | skipped => cases hresult
      | accepted => cases hresult
    refine iff_of_false hnot ?_
    rintro ⟨hall, hanswers⟩
    cases hout with
    | accepted =>
        have hlast := hanswers _ (List.mem_append_right ts (List.mem_singleton_self _))
        cases hlast
    | refused =>
        have hlast := hanswers _ (List.mem_append_right ts (List.mem_singleton_self _))
        cases hlast
    | _ =>
        simp only [List.append_nil] at hall
        rw [hall] at hlength
        exact Nat.lt_irrefl _ hlength

/-- When no patch was applied, the state is what the others made of it. -/
theorem run_unchanged {fuel : Nat}
    (h : forall t, t ∈ (run server apply build exhausted fuel n a s).attempts ->
      t.answer.applied = false) :
    OthersOnly server n s (run server apply build exhausted fuel n a s).final := by
  rcases run_cases server apply build exhausted fuel n a s with
    ⟨ts, m, b, s', hconflicts, ⟨_, hrun⟩ | ⟨_, out, hout, hrun⟩⟩
  · rw [hrun]
    exact hconflicts.othersOnly .start
  · rw [hrun] at h ⊢
    apply hconflicts.othersOnly
    cases hout with
    | unread => exact .read
    | unbuilt => exact .read
    | skipped => exact .read
    | accepted =>
        have hlast := h _ (List.mem_append_right ts (List.mem_singleton_self _))
        cases hlast
    | @refused _ _ _ applied =>
        have hlast := h _ (List.mem_append_right ts (List.mem_singleton_self _))
        have hnot : applied = false := hlast
        rw [hnot]
        exact .later .start

end Course

end ReadModifyWrite
end Foundation
