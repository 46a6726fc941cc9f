/-
A lease with fencing tokens, in the abstract.

One resource is leased to one holder at a time until an instant, under a token that
later writes must present. What makes tokens a fence is an order on them: renewing
does not lower the token, and taking the lease over, once it is gone or expired,
names a token above every token issued before. `Moves` is the system of exactly the
moves that obey this, over any holders, tokens and instants, and the results are
about all of its runs:

* `tight_run` -- no issued token is above the current one, and the current one was
  issued to nobody but the holder;
* `stale_run` -- a grant that does not pass the check at some instant never passes
  it again.
-/
import CodingAgentLoop.Lib.Transition

namespace Lib

/-- A lease: who holds it, under which token, until when. -/
structure Lease (ω τ θ : Type*) where
  holder : ω
  token : τ
  expires : θ

namespace Lease

variable {ω τ θ : Type*}

/-- The resource: its lease if there is one, the clock, and everything issued so far. -/
structure Cell (ω τ θ : Type*) where
  lease : Option (Lease ω τ θ)
  clock : θ
  issued : List (ω × τ)

/-- A grant passes the check: the lease is live, and it is this holder's under this token. -/
def Passes [Preorder θ] (lease : Option (Lease ω τ θ)) (now : θ) (grant : ω × τ) : Prop :=
  ∃ l ∈ lease, now < l.expires ∧ l.holder = grant.1 ∧ l.token = grant.2

variable [PartialOrder τ] [Preorder θ]

/-- The moves that keep the tokens in order. An event is the instant and what was granted. -/
inductive Moves (cell : Cell ω τ θ) : θ × Option (ω × τ) → Cell ω τ θ → Prop
  | kept {now : θ} (later : cell.clock ≤ now) :
      Moves cell (now, none) { cell with clock := now }
  | renewed {now : θ} {l l' : Lease ω τ θ} (later : cell.clock ≤ now) (current : cell.lease = some l)
      (live : now < l.expires) (holder : l'.holder = l.holder) (rises : l.token ≤ l'.token) :
      Moves cell (now, some (l'.holder, l'.token))
        ⟨some l', now, cell.issued ++ [(l'.holder, l'.token)]⟩
  | taken {now : θ} {l' : Lease ω τ θ} (later : cell.clock ≤ now)
      (free : ∀ l ∈ cell.lease, l.expires ≤ now)
      (above : ∀ grant ∈ cell.issued, grant.2 < l'.token) :
      Moves cell (now, some (l'.holder, l'.token))
        ⟨some l', now, cell.issued ++ [(l'.holder, l'.token)]⟩
  | released {now : θ} (later : cell.clock ≤ now) :
      Moves cell (now, none) { cell with lease := none, clock := now }

/-- The current token was issued to the holder, to nobody else, and is the highest one issued. -/
structure Tight (cell : Cell ω τ θ) : Prop where
  granted : ∀ l ∈ cell.lease, (l.holder, l.token) ∈ cell.issued
  highest : ∀ l ∈ cell.lease, ∀ grant ∈ cell.issued, grant.2 ≤ l.token
  holder : ∀ l ∈ cell.lease, ∀ grant ∈ cell.issued, grant.2 = l.token → grant.1 = l.holder

omit [Preorder θ] in
theorem Tight.init (clock : θ) : Tight (⟨none, clock, []⟩ : Cell ω τ θ) := by
  refine ⟨?_, ?_, ?_⟩ <;>
  · intro l hl
    cases hl

omit [Preorder θ] in
theorem Tight.granted_above {issued : List (ω × τ)} {l' : Lease ω τ θ} {now : θ}
    (hle : ∀ grant ∈ issued, grant.2 ≤ l'.token)
    (heq : ∀ grant ∈ issued, grant.2 = l'.token → grant.1 = l'.holder) :
    Tight ⟨some l', now, issued ++ [(l'.holder, l'.token)]⟩ := by
  refine ⟨?_, ?_, ?_⟩
  · rintro _ ⟨⟩
    exact List.mem_append_right _ List.mem_cons_self
  · rintro _ ⟨⟩ grant hgrant
    rcases mem_snoc hgrant with hold | hnew
    · exact hle grant hold
    · rw [hnew]
  · rintro _ ⟨⟩ grant hgrant htoken
    rcases mem_snoc hgrant with hold | hnew
    · exact heq grant hold htoken
    · rw [hnew]

theorem Tight.step {cell cell' : Cell ω τ θ} {event : θ × Option (ω × τ)} (h : Tight cell)
    (hmove : Moves cell event cell') : Tight cell' := by
  cases hmove with
  | kept => exact ⟨h.granted, h.highest, h.holder⟩
  | released =>
    refine ⟨?_, ?_, ?_⟩ <;>
    · intro l hl
      cases hl
  | @renewed now l l' _ current _ holder rises =>
    refine Tight.granted_above (fun grant hgrant => (h.highest l current grant hgrant).trans rises) ?_
    intro grant hgrant heq
    -- an issued token at the renewed one was the current one already
    have hsame : grant.2 = l.token :=
      le_antisymm (h.highest l current grant hgrant) (by rw [heq]; exact rises)
    rw [h.holder l current grant hgrant hsame, holder]
  | taken _ _ above =>
    refine Tight.granted_above (fun grant hgrant => le_of_lt (above grant hgrant)) ?_
    intro grant hgrant heq
    exact absurd heq (ne_of_lt (above grant hgrant))

variable {cell cell' : Cell ω τ θ}

theorem tight_run {events : List (θ × Option (ω × τ))} (h : Run Moves cell events cell')
    (htight : Tight cell) : Tight cell' :=
  h.invariant htight (fun _ _ _ hbefore hmove => hbefore.step hmove)

variable {event : θ × Option (ω × τ)}

theorem Moves.issued_subset (h : Moves cell event cell') :
    ∀ grant ∈ cell.issued, grant ∈ cell'.issued := by
  intro grant hgrant
  cases h with
  | kept => exact hgrant
  | released => exact hgrant
  | renewed => exact List.mem_append_left _ hgrant
  | taken => exact List.mem_append_left _ hgrant

variable {grant : ω × τ}

omit [PartialOrder τ] in
theorem stale_mono {lease : Option (Lease ω τ θ)} {now later : θ} (h : ¬ Passes lease now grant)
    (hle : now ≤ later) : ¬ Passes lease later grant := by
  rintro ⟨l, hl, hlive, hmatch⟩
  exact h ⟨l, hl, lt_of_le_of_lt hle hlive, hmatch⟩

theorem stale_step (htight : Tight cell) (hissued : grant ∈ cell.issued)
    (hstale : ¬ Passes cell.lease cell.clock grant) (hmove : Moves cell event cell') :
    ¬ Passes cell'.lease cell'.clock grant := by
  cases hmove with
  | kept later => exact stale_mono hstale later
  | released =>
    rintro ⟨l, hl, -⟩
    cases hl
  | @renewed now l l' later current live holder rises =>
    rintro ⟨_, ⟨⟩, -, hholder, htoken⟩
    -- the grant's token is the renewed one only if it already was the current one
    have hle := htight.highest l current grant hissued
    have hsame : l.token = grant.2 := le_antisymm (by rw [← htoken]; exact rises) hle
    exact hstale ⟨l, current, lt_of_le_of_lt later live, by rw [← holder, hholder], hsame⟩
  | @taken now l' _ _ above =>
    rintro ⟨_, ⟨⟩, -, -, htoken⟩
    have habove := above grant hissued
    rw [htoken] at habove
    exact lt_irrefl _ habove

/-- **A stale grant stays stale.** -/
theorem stale_run {events : List (θ × Option (ω × τ))} (h : Run Moves cell events cell')
    (htight : Tight cell) (hissued : grant ∈ cell.issued)
    (hstale : ¬ Passes cell.lease cell.clock grant) : ¬ Passes cell'.lease cell'.clock grant := by
  have hall : Tight cell' ∧ grant ∈ cell'.issued ∧ ¬ Passes cell'.lease cell'.clock grant := by
    refine h.invariant (I := fun c => Tight c ∧ grant ∈ c.issued ∧ ¬ Passes c.lease c.clock grant)
      ⟨htight, hissued, hstale⟩ ?_
    rintro before event after ⟨htight, hissued, hstale⟩ hmove
    exact ⟨htight.step hmove, hmove.issued_subset grant hissued,
      stale_step htight hissued hstale hmove⟩
  exact hall.2.2

/-- **The current token never falls**, and a lease that changes hands, or is taken again once it
is gone or expired, gets a token above every token issued before. -/
theorem Moves.token_rises (htight : Tight cell) (h : Moves cell event cell') :
    (∀ l ∈ cell.lease, ∀ l' ∈ cell'.lease, l.token ≤ l'.token)
      ∧ ∀ grant, event.2 = some grant →
        (∀ l ∈ cell.lease, l.expires ≤ event.1 ∨ l.holder ≠ grant.1) →
          ∀ earlier ∈ cell.issued, earlier.2 < grant.2 := by
  cases h with
  | kept =>
    refine ⟨?_, fun grant hgrant => by cases hgrant⟩
    intro l hl l' hl'
    rw [Option.mem_unique hl hl']
  | released =>
    refine ⟨?_, fun grant hgrant => by cases hgrant⟩
    intro l hl l' hl'
    cases hl'
  | @renewed now l l' _ current live holder rises =>
    refine ⟨?_, ?_⟩
    · rintro other hother _ ⟨⟩
      rw [Option.mem_unique hother current]
      exact rises
    · rintro _ ⟨⟩ hfree
      rcases hfree l current with hexpired | hother
      · exact absurd (lt_of_lt_of_le live hexpired) (lt_irrefl _)
      · exact absurd holder.symm hother
  | @taken now l' _ free above =>
    refine ⟨?_, ?_⟩
    · rintro l hl _ ⟨⟩
      exact le_of_lt (above _ (htight.granted l hl))
    · rintro _ ⟨⟩ -
      exact above

end Lease

end Lib
