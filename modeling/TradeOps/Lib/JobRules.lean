import TradeOps.Lib.Jobs

/-!
# Batches and answers of jobs

Two rules about jobs beside their safety. `Job.Sends` says of every batch that a job may send what
it holds and how the job goes on after it; a step of an interleaving that changes the store is then
one of these. `Job.AnswersIn` says that a job ends with an answer after a number of its own steps,
whatever the other jobs do in between.
-/

namespace Job

variable {V : Store} {ε α : Type}

/-- Every batch that the job may send, with the rest of the job after it, satisfies `P`. -/
def Sends (P : List V.Statement → Job V ε α → Prop) : Job V ε α → Prop
  | done _ => True
  | throw _ => True
  | read _ k => ∀ s, (k s).Sends P
  | send statements next refused =>
    P statements next ∧ next.Sends P ∧ ∀ failure, (refused failure).Sends P

/-- The job ends with `a` after at most the given number of steps of its own, while the store
changes as `R` allows within `I`. -/
def AnswersIn (I : V.State → Prop) (R : V.State → V.State → Prop) (a : α) :
    Nat → Job V ε α → V.State → Prop
  | _, done b, _ => b = a
  | n + 1, read _ k, s => ∀ s', R s s' → I s' → (k s').AnswersIn I R a n s'
  | _, _, _ => False

variable {P : List V.Statement → Job V ε α → Prop} {p p' : Job V ε α} {s s' : V.State}

/-- A read sends nothing. -/
theorem Sends.query_bind {β : Type} {f : V.State → β} {k : β → Job V ε α}
    (h : ∀ s, (k (f s)).Sends P) : (query f >>= k).Sends P :=
  h

/-- A read is one step. -/
theorem AnswersIn.query_bind {I : V.State → Prop} {R : V.State → V.State → Prop} {a : α} {n : Nat}
    {β : Type} {f : V.State → β} {k : β → Job V ε α}
    (h : ∀ s', R s s' → I s' → (k (f s')).AnswersIn I R a n s') :
    (query f >>= k).AnswersIn I R a (n + 1) s :=
  h

/-- A step that changes the store sends a batch of which `P` holds. -/
theorem Sends.advance (h : p.Sends P) (hstep : p.advance s = some (p', s')) :
    p'.Sends P ∧ (s' = s ∨ ∃ statements, V.batch statements s = .ok s' ∧ P statements p') := by
  cases p with
  | done a => exact absurd hstep (by simp [Job.advance])
  | throw e => exact absurd hstep (by simp [Job.advance])
  | read noted k =>
    obtain ⟨rfl, rfl⟩ : k s = p' ∧ s = s' := by simpa [Job.advance] using hstep
    exact ⟨h s, .inl rfl⟩
  | send statements next refused =>
    obtain ⟨hP, hnext, hrefused⟩ := h
    rw [Job.advance] at hstep
    split at hstep
    next s'' hbatch =>
      obtain ⟨rfl, rfl⟩ : next = p' ∧ s'' = s' := by simpa using hstep
      exact ⟨hnext, .inr ⟨statements, hbatch, hP⟩⟩
    next failure hbatch =>
      obtain ⟨rfl, rfl⟩ : refused failure = p' ∧ s = s' := by simpa using hstep
      exact ⟨hrefused failure, .inl rfl⟩

variable {I : V.State → Prop} {R : V.State → V.State → Prop} {a : α} {n : Nat}

theorem AnswersIn.stable (htrans : ∀ a b c, R a b → R b c → R a c) (h : p.AnswersIn I R a n s)
    (hR : R s s') : p.AnswersIn I R a n s' := by
  cases p with
  | done b => cases n <;> exact h
  | throw e => cases n <;> exact h
  | read noted k =>
    cases n with
    | zero => exact h
    | succ n => exact fun s'' hR' => h s'' (htrans _ _ _ hR hR')
  | send statements next refused => cases n <;> exact h

/-- A step uses up one of the steps that the job has left; one that has ended makes none. -/
theorem AnswersIn.advance (hrefl : R s s) (hI : I s) (h : p.AnswersIn I R a n s) :
    p = done a ∨ ∃ m p', n = m + 1 ∧ p.advance s = some (p', s) ∧ p'.AnswersIn I R a m s := by
  cases p with
  | done b =>
    left
    have hb : b = a := by cases n <;> exact h
    rw [hb]
  | throw e => cases n <;> exact absurd h id
  | read noted k =>
    cases n with
    | zero => exact absurd h id
    | succ n => exact .inr ⟨n, k s, rfl, rfl, h s hrefl hI⟩
  | send statements next refused => cases n <;> exact absurd h id

end Job

namespace Jobs

variable {V : Store} {ε α τ : Type} {init : V.State → Prop} {serve : τ → Job V ε α}
  {admits : τ → Prop} {allowed : τ → List V.State → V.State → Prop} {w w' : World V ε α τ}

section Sends

variable {P : List V.Statement → Job V ε α → Prop} (hserve : ∀ request, (serve request).Sends P)

include hserve

theorem World.reachable_sends (h : (system init serve admits allowed).Reachable w) :
    ∀ call ∈ w.calls, call.2.Sends P := by
  refine System.Reachable.invariant (I := fun w => ∀ call ∈ w.calls, call.2.Sends P) ?_ ?_ h
  · rintro w ⟨-, hcalls, -⟩
    rw [hcalls]
    exact fun call hcall => absurd hcall List.not_mem_nil
  · intro l w w' hsends hstep
    cases l with
    | arrive request =>
      obtain ⟨-, rfl⟩ := hstep
      intro call hcall
      obtain hold | hnew := List.mem_append.1 hcall
      · exact hsends call hold
      · rw [List.mem_singleton.1 hnew]
        exact hserve request
    | step i =>
      obtain ⟨request, p, p', s', hget, hadvance, -, rfl⟩ := hstep
      intro call hcall
      obtain hold | rfl := List.mem_or_eq_of_mem_set hcall
      · exact hsends call hold
      · exact ((hsends _ (List.mem_of_getElem? hget)).advance hadvance).1

/-- A step that changes the store is a batch of one call, and the call goes on as `P` says. -/
theorem World.step_sends (h : (system init serve admits allowed).Reachable w) {l : Label τ}
    (hstep : (system init serve admits allowed).step l w w') :
    w'.state = w.state ∨ ∃ i request statements p', l = .step i ∧
      w'.calls[i]? = some (request, p') ∧ V.batch statements w.state = .ok w'.state ∧
        P statements p' := by
  cases l with
  | arrive request =>
    obtain ⟨-, rfl⟩ := hstep
    exact .inl rfl
  | step i =>
    obtain ⟨request, p, p', s', hget, hadvance, -, rfl⟩ := hstep
    have hp := World.reachable_sends hserve h _ (List.mem_of_getElem? hget)
    obtain ⟨-, hsame | ⟨statements, hbatch, hP⟩⟩ := hp.advance hadvance
    · exact .inl hsame
    · refine .inr ⟨i, request, statements, p', rfl, ?_, hbatch, hP⟩
      exact List.getElem?_set_self (List.getElem?_eq_some_iff.mp hget).1

end Sends

/-- Where every request and every batch is allowed, a schedule leads to a reachable world. -/
theorem World.schedule_free (schedule : List (Label τ))
    (h : (system init serve (fun _ => True) fun _ _ _ => True).Reachable w) :
    (system init serve (fun _ => True) fun _ _ _ => True).Reachable
      (schedule.foldl (World.next serve) w) := by
  induction schedule generalizing w with
  | nil => exact h
  | cons l rest ih =>
    exact ih (h.run (World.next_run (fun _ _ => trivial) fun _ _ _ _ _ _ => trivial))

/-- The label is a step of a call. -/
def Label.isStep (i : Nat) : Label τ → Bool
  | .arrive _ => false
  | .step j => j = i

section Answers

variable {I : V.State → Prop} {R : V.State → V.State → Prop} {Q : τ → Except ε α → V.State → Prop}
  (hrefl : ∀ s, R s s) (htrans : ∀ a b c, R a b → R b c → R a c)
  (hQ : ∀ request r a b, Q request r a → R a b → Q request r b)
  (hserve : ∀ request, ∀ s, I s →
    (serve request).Safe I R (fun _ _ => True) (fun r _ => Q request r) [] s)

include hrefl htrans hQ hserve

/-- A label of a safe world leaves it safe and changes the store as `R` allows. -/
theorem World.next_safe (hsafe : w.Safe (fun _ => True) I R (fun _ _ _ => True) Q) (l : Label τ) :
    (w.next serve l).Safe (fun _ => True) I R (fun _ _ _ => True) Q ∧
      R w.state (w.next serve l).state := by
  have hrun : (system (fun _ => False) serve (fun _ => True) fun _ _ _ => True).Run w
      (w.next serve l) := World.next_run (fun _ _ => trivial) fun _ _ _ _ _ _ => trivial
  refine System.Run.keeps (I := fun w' => w'.Safe (fun _ => True) I R (fun _ _ _ => True) Q ∧
    R w.state w'.state) ?_ hrun ⟨hsafe, hrefl _⟩
  rintro l w₁ w₂ ⟨hsafe₁, hR₁⟩ hstep
  obtain ⟨hsafe₂, hR₂⟩ :=
    World.step_safe hrefl htrans hQ (fun request _ => hserve request) hsafe₁ hstep
  exact ⟨hsafe₂, htrans _ _ _ hR₁ hR₂⟩

/-- A call that answers in `n` steps has answered in every schedule that gives it as many; until
then it has not ended. -/
theorem World.schedule_answers {i n : Nat} {request : τ} {a : α}
    (schedule : List (Label τ)) {p : Job V ε α}
    (hsafe : w.Safe (fun _ => True) I R (fun _ _ _ => True) Q)
    (hget : w.calls[i]? = some (request, p)) (hp : p.AnswersIn I R a n w.state) :
    ((schedule.foldl (World.next serve) w).answer i = none ∧ schedule.countP (Label.isStep i) < n) ∨
      (schedule.foldl (World.next serve) w).answer i = some a := by
  induction schedule generalizing w p n with
  | nil =>
    rw [List.foldl_nil, World.answer, hget, Option.bind_some]
    obtain rfl | ⟨m, p', rfl, hadvance, -⟩ := hp.advance (hrefl _) hsafe.state
    · exact .inr rfl
    · left
      refine ⟨?_, by simp⟩
      cases p with
      | done b => cases hadvance
      | throw e => rfl
      | read noted k => rfl
      | send statements next refused => rfl
  | cons l rest ih =>
    obtain ⟨hsafe', hR⟩ := World.next_safe hrefl htrans hQ hserve hsafe l
    rw [List.foldl_cons]
    by_cases hl : Label.isStep i l = true
    · -- the call itself makes a step
      rw [List.countP_cons_of_pos hl]
      have hlabel : l = .step i := by
        cases l with
        | arrive request' => cases hl
        | step j => rw [of_decide_eq_true hl]
      subst hlabel
      obtain rfl | ⟨m, p', rfl, hadvance, hp'⟩ := hp.advance (hrefl _) hsafe.state
      · have hsame : w.next serve (.step i) = w := by
          rw [World.next, hget]
          rfl
        rw [hsame]
        obtain ⟨-, hcount⟩ | hsome := ih (n := 0) hsafe hget rfl
        · cases hcount
        · exact .inr hsome
      · have hnext : w.next serve (.step i) = w.stepped i request p p' w.state := by
          rw [World.next, hget]
          dsimp only
          rw [hadvance]
        rw [hnext] at hsafe' ⊢
        have hget' : (w.calls.set i (request, p'))[i]? = some (request, p') :=
          List.getElem?_set_self (List.getElem?_eq_some_iff.mp hget).1
        obtain ⟨hnone, hcount⟩ | hsome := ih hsafe' hget' hp'
        · exact .inl ⟨hnone, by omega⟩
        · exact .inr hsome
    · rw [List.countP_cons_of_neg hl]
      have hget' : (w.next serve l).calls[i]? = some (request, p) := by
        cases l with
        | arrive request' =>
          show (w.calls ++ [_])[i]? = _
          rw [List.getElem?_append_left (List.getElem?_eq_some_iff.mp hget).1]
          exact hget
        | step j =>
          have hij : j ≠ i := fun heq => hl (decide_eq_true heq)
          rw [World.next]
          split
          · exact hget
          · split
            · exact hget
            · exact (List.getElem?_set_ne hij).trans hget
      exact ih hsafe' hget' (hp.stable htrans hR)

end Answers

end Jobs
