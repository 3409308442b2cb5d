import AssetStore.OnceCell
/-!
# Calls on a cell built once

A program makes calls on one cell one after another, each with its own initialiser
(`OnceCell.calls`). The initialisers run in any monad, so they may have any effect, and each is
given the cell as it is while it runs. What a run of calls does follows from two laws. On a built
cell every call answers the cell's value and runs nothing: a whole run of calls is `pure`, so no
initialiser is ever invoked (`calls_parsed`). On an unparsed cell the first call runs its
initialiser once, with the cell parsing; a success is published and answers every later call, a
failure is answered as it is and leaves the cell unparsed for the next call
(`calls_unparsed_cons`). With initialisers that have no effect the whole run is then given in
closed form: failures are answered one by one until the first success, whose value answers every
call from then on (`calls_fail_then_succeed`).

The main statement is `calls_build_once`.
-/

namespace AssetStore.OnceCell

variable {α ε : Type}

/-- Calls made on a cell one after another, each with its own initialiser: what each call
answers, and the cell after the last. -/
def calls {m : Type → Type} [Monad m] (c : OnceCell α) :
    List (OnceCell α → m (Except ε α)) → m (List (Except ε α) × OnceCell α)
  | [] => pure ([], c)
  | init :: inits => do
    let (answer, c') ← c.getOrTryInit init
    let (answers, last) ← calls c' inits
    pure (answer :: answers, last)

theorem state_eq_parsed_iff (c : OnceCell α) : c.state = .parsed ↔ c.get?.isSome := by
  cases c <;> simp [state, get?]

section Monadic

variable {m : Type → Type} [Monad m] [LawfulMonad m]

/-- On a built cell every call answers its value and runs nothing. -/
theorem calls_parsed (v : α) (inits : List (OnceCell α → m (Except ε α))) :
    calls (.parsed v) inits = pure (inits.map fun _ => .ok v, .parsed v) := by
  induction inits with
  | nil => rfl
  | cons init inits inductionHypothesis =>
    simp only [calls, getOrTryInit, pure_bind, inductionHypothesis, List.map_cons]

/-- On an unparsed cell a call runs its initialiser once, with the cell parsing. Its success is
published and answers every later call; its failure is answered as it is, and the cell, unparsed
again, runs the next call's initialiser. -/
theorem calls_unparsed_cons (init : OnceCell α → m (Except ε α))
    (inits : List (OnceCell α → m (Except ε α))) :
    calls .unparsed (init :: inits) = init .parsing >>= fun outcome => match outcome with
      | .ok v => pure (.ok v :: inits.map fun _ => .ok v, .parsed v)
      | .error e => (fun run => (.error e :: run.1, run.2)) <$> calls .unparsed inits := by
  simp only [calls, getOrTryInit, bind_assoc]
  congr 1
  funext outcome
  cases outcome with
  | ok v => simp [calls_parsed]
  | error e =>
    simp only [pure_bind]
    rw [map_eq_pure_bind]

end Monadic

/-! ### Initialisers without effects -/

/-- A call whose initialiser fails is answered with the failure, and the later calls run on the
cell, unparsed again. -/
theorem calls_failed_cons {init : OnceCell α → Except ε α} {e : ε} (failed : init .parsing = .error e)
    (inits : List (OnceCell α → Except ε α)) :
    calls (m := Id) .unparsed (init :: inits) =
      (.error e :: (calls (m := Id) .unparsed inits).1, (calls (m := Id) .unparsed inits).2) := by
  rw [calls_unparsed_cons, failed]
  rfl

/-- Calls whose initialisers all fail are each answered with their own failure, and the cell
stays unparsed. -/
theorem calls_failing (fails : List (OnceCell α → Except ε α))
    (failing : ∀ init ∈ fails, ∃ e, init .parsing = .error e) :
    calls (m := Id) .unparsed fails = (fails.map (· .parsing), .unparsed) := by
  induction fails with
  | nil => rfl
  | cons init fails inductionHypothesis =>
    obtain ⟨e, failed⟩ := failing init List.mem_cons_self
    rw [calls_failed_cons failed, List.map_cons, failed,
      inductionHypothesis fun init' member => failing init' (List.mem_cons_of_mem _ member)]

/-- Calls whose initialisers fail until one succeeds: the failures are answered as they are, and
from the first success on every call answers its value, whatever the later initialisers. -/
theorem calls_fail_then_succeed (fails : List (OnceCell α → Except ε α))
    (failing : ∀ init ∈ fails, ∃ e, init .parsing = .error e) (init : OnceCell α → Except ε α)
    (v : α) (succeeds : init .parsing = .ok v) (rest : List (OnceCell α → Except ε α)) :
    calls (m := Id) .unparsed (fails ++ init :: rest) =
      (fails.map (· .parsing) ++ .ok v :: rest.map fun _ => .ok v, .parsed v) := by
  induction fails with
  | nil =>
    rw [List.nil_append, calls_unparsed_cons, succeeds]
    rfl
  | cons fail fails inductionHypothesis =>
    obtain ⟨e, failed⟩ := failing fail List.mem_cons_self
    rw [List.cons_append, calls_failed_cons failed, List.map_cons, failed,
      inductionHypothesis fun init' member => failing init' (List.mem_cons_of_mem _ member)]
    rfl

/-- Calls on one cell, one after another. On a built cell every call answers its value and no
initialiser runs, in any monad. On an unparsed cell a call runs its own initialiser, which sees
the cell parsing (no value to give); a success is published and answers that call and every
later one, a failure is answered unchanged and leaves the cell unparsed, so the next call runs its
own initialiser. So, for initialisers without effects, the cell is unparsed, with no value, until
the first initialiser that succeeds, and parsed with its value from then on. -/
theorem calls_build_once :
    (∀ (m : Type → Type) [Monad m] [LawfulMonad m] (v : α)
        (inits : List (OnceCell α → m (Except ε α))),
      calls (.parsed v) inits = pure (inits.map fun _ => .ok v, .parsed v)) ∧
    (∀ (m : Type → Type) [Monad m] [LawfulMonad m] (init : OnceCell α → m (Except ε α))
        (inits : List (OnceCell α → m (Except ε α))),
      calls .unparsed (init :: inits) = init .parsing >>= fun outcome => match outcome with
        | .ok v => pure (.ok v :: inits.map fun _ => .ok v, .parsed v)
        | .error e => (fun run => (.error e :: run.1, run.2)) <$> calls .unparsed inits) ∧
    (OnceCell.parsing : OnceCell α).state = .parsing ∧ (OnceCell.parsing : OnceCell α).get? = none ∧
    (∀ c : OnceCell α, c.state = .parsed ↔ c.get?.isSome) ∧
    (∀ fails : List (OnceCell α → Except ε α), (∀ init ∈ fails, ∃ e, init .parsing = .error e) →
      calls (m := Id) .unparsed fails = (fails.map (· .parsing), .unparsed)) ∧
    ∀ (fails : List (OnceCell α → Except ε α)), (∀ init ∈ fails, ∃ e, init .parsing = .error e) →
      ∀ init v, init .parsing = .ok v → ∀ rest,
        calls (m := Id) .unparsed (fails ++ init :: rest) =
          (fails.map (· .parsing) ++ .ok v :: rest.map fun _ => .ok v, .parsed v) :=
  ⟨fun _ _ _ => calls_parsed, fun _ _ _ => calls_unparsed_cons, rfl, rfl, state_eq_parsed_iff,
    calls_failing, calls_fail_then_succeed⟩

/-- A failed build is not kept: the next call builds the value, and a later initialiser is not
run. -/
theorem calls_build_once_retried :
    (∀ init ∈ [fun (_ : OnceCell Nat) => (.error "boom" : Except String Nat)], ∃ e,
      init .parsing = .error e) ∧
    calls (m := Id) (.parsed 7) [fun _ => pure (.ok 9 : Except String Nat)] = pure ([.ok 7], .parsed 7) ∧
    calls (m := Id) .unparsed [fun _ => .error "boom", fun _ => .ok 7, fun _ => .ok 9] =
      ([.error "boom", .ok 7, .ok 7], .parsed 7) :=
  ⟨by simp, (calls_build_once (α := Nat) (ε := String)).1 Id 7 _,
    (calls_build_once (α := Nat) (ε := String)).2.2.2.2.2.2 [fun _ => .error "boom"] (by simp)
      (fun _ => .ok 7) 7 rfl [fun _ => .ok 9]⟩

end AssetStore.OnceCell
