import Resolver.Proofs.Cache.Ledger

/-!
# Runs of a store

Main statements: no run comes upon damage and every run leaves the store laid out as it should be
(`run_wellFormed`), and its answers and entries are those of a list of entries (`run_steps`).
-/

namespace Resolver.Cache

namespace Clocked

variable {s : Clocked} {filed : Nat → Bytes} {ops : List Operation}

theorem wellFormed_new (capacity : Nat) (hashKey : Bytes) (now : Tai64) (filed : Nat → Bytes) :
    (new capacity hashKey now).cache.WellFormed filed :=
  (laid_blank capacity hashKey 0 filed).wellFormed

/-- A run from a store that is laid out as it should be comes upon no damage and takes its list
through steps. -/
theorem exists_run (h : s.cache.WellFormed filed) (ops : List Operation) :
    ∃ answers s' filed', s.run ops = .ok (answers, s') ∧ s'.cache.WellFormed filed' ∧
      Ledger.Steps Ledger.Serves (s.ledger filed) ops answers (s'.ledger filed') := by
  -- each step keeps the layout, which is all that the next one needs
  induction ops generalizing s filed with
  | nil => exact ⟨[], s, filed, rfl, h, .done⟩
  | cons op ops ih =>
    obtain ⟨answer, s₁, filed₁, hperform, h₁, hstep⟩ := exists_step h op
    obtain ⟨answers, s₂, filed₂, hrun, h₂, hsteps⟩ := ih h₁
    refine ⟨answer :: answers, s₂, filed₂, ?_, h₂, .step hstep hsteps⟩
    rw [run, hperform]
    simp only
    rw [hrun]
    rfl

/-- A run from a new store takes the empty list through steps. -/
theorem exists_run_new (capacity : Nat) (hashKey : Bytes) (now : Tai64) (ops : List Operation) :
    ∃ answers s filed, (new capacity hashKey now).run ops = .ok (answers, s) ∧
      s.cache.WellFormed filed ∧
      Ledger.Steps Ledger.Serves (Ledger.new capacity hashKey now) ops answers (s.ledger filed) := by
  obtain ⟨answers, s, filed, hrun, h, hsteps⟩ :=
    exists_run (wellFormed_new capacity hashKey now fun _ => hashKey) ops
  have hnew : (new capacity hashKey now).ledger (fun _ => hashKey) =
      Ledger.new capacity hashKey now := ledger_blank capacity hashKey 0 now _
  rw [hnew] at hsteps
  exact ⟨answers, s, filed, hrun, h, hsteps⟩

/-- A run that goes on from where another one ended. -/
theorem run_append {s₁ s₂ : Clocked} {ops' : List Operation} {answers answers' : List (Option Hit)}
    (h : s.run ops = .ok (answers, s₁)) (h' : s₁.run ops' = .ok (answers', s₂)) :
    s.run (ops ++ ops') = .ok (answers ++ answers', s₂) := by
  induction ops generalizing s answers with
  | nil =>
    obtain ⟨rfl, rfl⟩ := Prod.mk.inj (Except.ok.inj h)
    exact h'
  | cons op ops ih =>
    rw [run] at h
    rw [List.cons_append, run]
    cases hperform : s.perform op with
    | error e =>
      rw [hperform] at h
      contradiction
    | ok result =>
      obtain ⟨answer, s'⟩ := result
      rw [hperform] at h
      simp only at h ⊢
      cases hrun : s'.run ops with
      | error e =>
        rw [hrun] at h
        contradiction
      | ok rest =>
        obtain ⟨more, last⟩ := rest
        rw [hrun] at h
        obtain ⟨rfl, rfl⟩ := Prod.mk.inj (Except.ok.inj h)
        rw [ih hrun]
        rfl

/-- After whatever was done with a new store, it is laid out as it should be. -/
theorem exists_wellFormed {capacity : Nat} {hashKey : Bytes} {now : Tai64}
    {answers : List (Option Hit)} (hrun : (new capacity hashKey now).run ops = .ok (answers, s)) :
    ∃ filed, s.cache.WellFormed filed := by
  obtain ⟨_, s', filed, hrun', h, -⟩ := exists_run_new capacity hashKey now ops
  obtain ⟨-, rfl⟩ := Prod.mk.inj (Except.ok.inj (hrun.symm.trans hrun'))
  exact ⟨filed, h⟩

/-- A new store is settled after every run in which no memory is refused. -/
theorem settled_of_run {capacity : Nat} {hashKey : Bytes} {now : Tai64}
    {answers : List (Option Hit)} (hrun : (new capacity hashKey now).run ops = .ok (answers, s))
    (hops : ∀ op ∈ ops, op.isRefused = false) : s.cache.Settled := by
  obtain ⟨_, s', filed, hrun', h, hsteps⟩ := exists_run_new capacity hashKey now ops
  obtain ⟨-, rfl⟩ := Prod.mk.inj (Except.ok.inj (hrun.symm.trans hrun'))
  exact settled_of_ledger h (hsteps.settled hops (Ledger.settled_new capacity hashKey now))

end Clocked

/-- Every run of a new store succeeds and leaves it laid out as it should be: each entry is on the
chain of the bucket it was filed in alone, each chain ends with a link that holds the offset of the
one before it, the entry where the older ones begin is the last of its chain, and whatever is done
next comes upon no damage. As long as no memory was refused when the store was to start over, the
bucket an entry was filed in is that of its key. -/
theorem run_wellFormed (capacity : Nat) (hashKey : Bytes) (now : Tai64) (ops : List Operation) :
    ∃ answers s filed, (Clocked.new capacity hashKey now).run ops = .ok (answers, s) ∧
      s.cache.WellFormed filed ∧
      (∀ p ∈ s.cache.live, ∀ head,
        p.pos ∈ s.cache.chain filed head ↔ head = s.cache.home filed p) ∧
      (∀ head tail links, s.cache.IsHead head → s.cache.chain filed head = links ++ [tail] →
        Arena.word s.cache.arena tail = .ok (links.getLastD head)) ∧
      (s.cache.oldest < s.cache.unused →
        ∃ o ∈ s.cache.live, o.pos = s.cache.oldest ∧
          (s.cache.chain filed (s.cache.home filed o)).getLast? = some s.cache.oldest) ∧
      (∀ op, ∃ result, s.perform op = .ok result) ∧
      ((∀ op ∈ ops, op.isRefused = false) →
        ∀ p ∈ s.cache.live, s.cache.home filed p = s.cache.bucket p.entry.key) := by
  obtain ⟨answers, s, filed, hrun, h, hsteps⟩ := Clocked.exists_run_new capacity hashKey now ops
  refine ⟨answers, s, filed, hrun, h, ?_, ?_, Laid.oldest_tail h, ?_, ?_⟩
  · intro p hp head
    exact Laid.mem_chain_iff h hp
  · intro head tail links hhead hchain
    exact Laid.word_tail h hhead hchain
  · intro op
    obtain ⟨answer, s', -, hperform, -⟩ := Clocked.exists_step h op
    exact ⟨(answer, s'), hperform⟩
  · intro hops p hp
    have hsettled := hsteps.settled hops (Ledger.settled_new capacity hashKey now)
    have hmem : p.file filed ∈ (s.ledger filed).entries := List.mem_map_of_mem hp
    have hhome := hsettled.home_eq hmem
    exact hhome

/-- Whatever is done with a new store, its answers and the entries it holds are those of the list
that starts empty. As long as no memory is refused when the store is to start over, a search is
answered from the newest of all entries with its key. -/
theorem run_steps (capacity : Nat) (hashKey : Bytes) (now : Tai64) (ops : List Operation) :
    ∃ answers s filed, (Clocked.new capacity hashKey now).run ops = .ok (answers, s) ∧
      Ledger.Steps Ledger.Serves (Ledger.new capacity hashKey now) ops answers (s.ledger filed) ∧
      ((∀ op ∈ ops, op.isRefused = false) →
        Ledger.Steps Ledger.IsLatest (Ledger.new capacity hashKey now) ops answers
          (s.ledger filed)) := by
  obtain ⟨answers, s, filed, hrun, -, hsteps⟩ := Clocked.exists_run_new capacity hashKey now ops
  exact ⟨answers, s, filed, hrun, hsteps,
    fun hops => hsteps.isLatest hops (Ledger.settled_new capacity hashKey now)⟩

/-- A store that was refused memory still has its entry, but searches look for it in another bucket. -/
example :
    ((Clocked.new 128 (List.replicate 16 1) ⟨0⟩).run
      [.set [1] [7] 60, .get [1], .reinit 128 (List.replicate 16 2) false, .get [1]]).map
        (fun (answers, s) => (answers, s.cache.used)) =
      .ok ([none, some ⟨[7], 60⟩, none, none], 22) := by cbv

end Resolver.Cache
