import EarthStation.Proofs.Tracking.Run
import EarthStation.Radio.Bench
import EarthStation.Rotator.Bench

/-!
# Lockout — which commands a run accepts

* `Entry`, `journal`: the commands of a run in the order in which they are handled.
* `grant`: the tick of the unlock that is still good, told from the journal alone.
* `Credited`: the count that a run keeps is the one that the grant leaves.
* `Lawful`, `journal_lawful`: every command of a run is answered by the grant before it.
* `accepted_iff_unlocked`: a command is accepted for so many ticks after an unlock, once.
-/

namespace EarthStation.Tracking.Controller

variable {τ α ρ κ : Type}

/-! ## The journal -/

/-- A command that was handled. -/
structure Entry (τ α ρ κ : Type) where
  /-- The number of the tick. -/
  tick : Nat
  command : Command α
  before : Controller τ α ρ κ
  answer : Except (Refusal α) Unit
  after : Controller τ α ρ κ

section Journal

variable [Scalar α] [Rotator.Device ρ α]

def entry (k : Nat) (command : Command α) (c : Controller τ α ρ κ) : Entry τ α ρ κ :=
  ⟨k, command, c, (handle command c).1, (handle command c).2⟩

/-- The commands of one tick. -/
def entries (k : Nat) : List (Command α) → Controller τ α ρ κ → List (Entry τ α ρ κ)
  | [], _ => []
  | command :: rest, c => entry k command c :: entries k rest (handle command c).2

/-- The commands of a run whose next tick is the `k`th. -/
def journal [Timeline τ α] [Chronology τ] [Radio.Device κ α] (k : Nat) :
    List (List (Command α) × τ) → Controller τ α ρ κ → List (Entry τ α ρ κ)
  | [], _ => []
  | (commands, now) :: rest, c =>
    entries k commands c ++ journal (k + 1) rest (tick commands now c).2

theorem entries_accepted (k : Nat) (commands : List (Command α)) (c : Controller τ α ρ κ) :
    (entries k commands c).map (fun e => e.answer.isOk) = (drain commands c).1 := by
  induction commands generalizing c with
  | nil => rfl
  | cons command rest ih =>
    rw [drain_cons, entries, List.map_cons, ih]
    rfl

theorem entries_tick (k : Nat) (commands : List (Command α)) (c : Controller τ α ρ κ) :
    ∀ e ∈ entries k commands c, e.tick = k := by
  induction commands generalizing c with
  | nil => simp [entries]
  | cons command rest ih =>
    intro e he
    rcases List.mem_cons.mp he with rfl | he
    · rfl
    · exact ih _ e he

variable [Timeline τ α] [Chronology τ] [Radio.Device κ α]

theorem le_of_mem_journal (k : Nat) (ticks : List (List (Command α) × τ))
    (c : Controller τ α ρ κ) : ∀ e ∈ journal k ticks c, k ≤ e.tick := by
  induction ticks generalizing k c with
  | nil => simp [journal]
  | cons tick rest ih =>
    intro e he
    rcases List.mem_append.mp he with he | he
    · exact Nat.le_of_eq (entries_tick k _ c e he).symm
    · have := ih (k + 1) _ e he
      omega

/-- The journal has the answers that the ticks report. -/
theorem journal_accepted (k : Nat) (ticks : List (List (Command α) × τ))
    (c : Controller τ α ρ κ) :
    (journal k ticks c).map (fun e => e.answer.isOk) =
      (transcript (fun _ => ()) ticks c).flatMap fun seen => seen.1.accepted := by
  induction ticks generalizing k c with
  | nil => rfl
  | cons tick rest ih =>
    rw [transcript_cons, List.flatMap_cons, journal, List.map_append, entries_accepted, ih]
    rfl

/-- The journal is in the order of the ticks. -/
theorem journal_ordered (k : Nat) (ticks : List (List (Command α) × τ))
    (c : Controller τ α ρ κ) :
    (journal k ticks c).Pairwise fun e f => e.tick ≤ f.tick := by
  induction ticks generalizing k c with
  | nil => exact List.Pairwise.nil
  | cons tick rest ih =>
    refine List.pairwise_append.mpr ⟨?_, ih (k + 1) _, ?_⟩
    · refine List.pairwise_of_forall_mem_list ?_
      intro e he f hf
      have hsame := (entries_tick k _ c e he).trans (entries_tick k _ c f hf).symm
      exact Nat.le_of_eq hsame
    · intro e he f hf
      have hf' := le_of_mem_journal (k + 1) _ _ f hf
      rw [entries_tick k _ c e he]
      omega

end Journal

/-! ## What an unlock grants -/

/-- The tick of the unlock that is good after an entry. -/
def grant (g : Option Nat) (e : Entry τ α ρ κ) : Option Nat :=
  if e.answer.isOk then if e.command.changesState then none else some e.tick else g

theorem grant_of_ok (g : Option Nat) {e : Entry τ α ρ κ} (h : e.answer = .ok ()) :
    grant g e = if e.command.changesState then none else some e.tick := by
  unfold grant
  rw [h]
  rfl

theorem grant_of_error (g : Option Nat) {e : Entry τ α ρ κ} {r : Refusal α}
    (h : e.answer = .error r) : grant g e = g := by
  unfold grant
  rw [h]
  rfl

/-- For how many more ticks, in the `k`th, commands are accepted after an unlock. -/
def credit (L k : Nat) (g : Option Nat) : Nat :=
  match g with
  | none => 0
  | some j => min L (L + 1 + j - k)

theorem credit_ne_zero {L k : Nat} (hL : 1 ≤ L) (g : Option Nat) :
    credit L k g ≠ 0 ↔ ∃ j, g = some j ∧ k ≤ j + L := by
  cases g with
  | none => simp [credit]
  | some j =>
    have : min L (L + 1 + j - k) ≠ 0 ↔ k ≤ j + L := by omega
    simpa [credit] using this

/-- Each tick takes one off the credit of an older unlock. -/
theorem credit_succ {L k : Nat} {g : Option Nat} (hg : ∀ j, g = some j → j < k) :
    credit L (k + 1) g = credit L k g - 1 := by
  cases g with
  | none => rfl
  | some j =>
    have := hg j rfl
    simp only [credit]
    omega

/-- The count of a run in its `k`th tick is what the unlock has left. -/
structure Credited (L k : Nat) (g : Option Nat) (c : Controller τ α ρ κ) : Prop where
  settings : c.settings.lockoutTicks = L
  unlockedTicks : c.session.unlockedTicks = credit L k g

/-- How an entry is answered after a grant. -/
structure Entry.Lawful (L : Nat) (g : Option Nat) (e : Entry τ α ρ κ) : Prop where
  accepted : e.answer = .ok () ↔
    (e.command.changesState = true → ∃ j, g = some j ∧ e.tick ≤ j + L)
  refused : e.answer ≠ .ok () → e.answer = .error .locked ∧ e.after = e.before

/-- Every entry is answered by the grant before it. -/
def Lawful (L : Nat) : Option Nat → List (Entry τ α ρ κ) → Prop
  | _, [] => True
  | g, e :: rest => e.Lawful L g ∧ Lawful L (grant g e) rest

theorem Lawful.append {L : Nat} {g : Option Nat} {es fs : List (Entry τ α ρ κ)}
    (h : Lawful L g es) (h' : Lawful L (es.foldl grant g) fs) : Lawful L g (es ++ fs) := by
  induction es generalizing g with
  | nil => exact h'
  | cons e es ih => exact ⟨h.1, ih h.2 h'⟩

theorem Lawful.at {L : Nat} {g : Option Nat} {past newer : List (Entry τ α ρ κ)}
    {e : Entry τ α ρ κ} (h : Lawful L g (past ++ e :: newer)) :
    e.Lawful L (past.foldl grant g) := by
  induction past generalizing g with
  | nil => exact h.1
  | cons p past ih => exact ih h.2

section Law

variable [Scalar α] [Rotator.Device ρ α] {L : Nat}

/-- One command is answered by the grant before it, and the count follows. -/
theorem entry_lawful (hL : 1 ≤ L) {k : Nat} {g : Option Nat} {c : Controller τ α ρ κ}
    (h : Credited L k g c) (command : Command α) :
    (entry k command c).Lawful L g ∧
      Credited L k (grant g (entry k command c)) (handle command c).2 := by
  have hcommand : (entry k command c).command = command := rfl
  have hgood := credit_ne_zero (k := k) hL g
  rw [← h.unlockedTicks] at hgood
  have hhandle := handle_eq command c
  cases hs : command.changesState with
  | false =>
    rw [hs, if_neg Bool.false_ne_true] at hhandle
    have hanswer : (entry k command c).answer = .ok () := congrArg Prod.fst hhandle
    have hgrant : grant g (entry k command c) = some k := by
      rw [grant_of_ok g hanswer, hcommand, hs]
      rfl
    refine ⟨⟨by simp [hanswer, hcommand, hs], fun hne => absurd hanswer hne⟩, ?_⟩
    rw [hgrant, hhandle]
    refine ⟨by rw [obey_settings, h.settings], ?_⟩
    rw [obey_unlockedTicks, hs, if_neg Bool.false_ne_true, h.settings]
    simp only [credit]
    omega
  | true =>
    rw [hs, if_pos rfl] at hhandle
    by_cases hz : c.session.unlockedTicks = 0
    · rw [if_pos hz] at hhandle
      have hanswer : (entry k command c).answer = .error .locked := congrArg Prod.fst hhandle
      refine ⟨⟨?_, fun _ => ⟨hanswer, congrArg Prod.snd hhandle⟩⟩, ?_⟩
      · rw [hanswer, hcommand]
        exact ⟨by simp, fun hgrant => absurd hz (hgood.mpr (hgrant hs))⟩
      · rw [grant_of_error g hanswer, hhandle]
        exact h
    · rw [if_neg hz] at hhandle
      have hanswer : (entry k command c).answer = .ok () := congrArg Prod.fst hhandle
      have hgrant : grant g (entry k command c) = none := by
        rw [grant_of_ok g hanswer, hcommand, hs]
        rfl
      refine ⟨⟨⟨fun _ _ => hgood.mp hz, fun _ => hanswer⟩, fun hne => absurd hanswer hne⟩, ?_⟩
      rw [hgrant, hhandle]
      refine ⟨by rw [obey_settings]; exact h.settings, ?_⟩
      rw [obey_unlockedTicks, hs, if_pos rfl]
      rfl

theorem entries_lawful (hL : 1 ≤ L) {k : Nat} {g : Option Nat} {c : Controller τ α ρ κ}
    (h : Credited L k g c) (commands : List (Command α)) :
    Lawful L g (entries k commands c) ∧
      Credited L k ((entries k commands c).foldl grant g) (drain commands c).2 := by
  induction commands generalizing g c with
  | nil => exact ⟨trivial, h⟩
  | cons command rest ih =>
    obtain ⟨hlawful, hnext⟩ := entry_lawful hL h command
    obtain ⟨hrest, hlast⟩ := ih hnext
    exact ⟨⟨hlawful, hrest⟩, hlast⟩

/-- The commands of a tick leave what the last one that was accepted grants. -/
theorem foldl_grant_entries (k : Nat) (g : Option Nat) (commands : List (Command α))
    (c : Controller τ α ρ κ) :
    (entries k commands c).foldl grant g =
      match ((commands.zip (drain commands c).1).filter (·.2)).getLast? with
      | none => g
      | some last => if last.1.changesState then none else some k := by
  induction commands generalizing g c with
  | nil => rfl
  | cons command rest ih =>
    rw [entries, List.foldl_cons, ih, drain_cons, List.zip_cons_cons]
    cases hanswer : (entry k command c).answer with
    | error r =>
      have hrejected : (handle command c).1.isOk = false := by
        rw [show (handle command c).1 = .error r from hanswer]
        rfl
      rw [grant_of_error g hanswer, hrejected, List.filter_cons_of_neg (by simp)]
    | ok =>
      have haccepted : (handle command c).1.isOk = true := by
        rw [show (handle command c).1 = .ok () from hanswer]
        rfl
      rw [grant_of_ok g hanswer, haccepted, List.filter_cons_of_pos rfl, List.getLast?_cons]
      cases ((rest.zip (drain rest (handle command c).2).1).filter (·.2)).getLast? with
      | none => rfl
      | some last => rfl

/-- A tick that leaves the run unlocked grants anew, and any other grants nothing anew. -/
theorem grant_of_leavesUnlocked (k : Nat) (g : Option Nat) (commands : List (Command α))
    (c : Controller τ α ρ κ) :
    if leavesUnlocked commands (drain commands c).1 then
      (entries k commands c).foldl grant g = some k
    else (entries k commands c).foldl grant g = none ∨ (entries k commands c).foldl grant g = g := by
  rw [foldl_grant_entries]
  unfold leavesUnlocked
  cases ((commands.zip (drain commands c).1).filter (·.2)).getLast? with
  | none => exact Or.inr rfl
  | some last => cases hs : last.1.changesState <;> simp [hs]

variable [Timeline τ α] [Chronology τ] [Radio.Device κ α]

/-- The count after a tick is what the unlock has left for the next one. -/
theorem tick_credited (hL : 1 ≤ L) {k : Nat} {g : Option Nat} {c : Controller τ α ρ κ}
    (h : Credited L k g c) (hg : ∀ j, g = some j → j < k) (commands : List (Command α)) (now : τ) :
    Credited L (k + 1) ((entries k commands c).foldl grant g) (tick commands now c).2 ∧
      ∀ j, (entries k commands c).foldl grant g = some j → j < k + 1 := by
  have hdrained := (entries_lawful hL h commands).2
  have hframe := step_frame now (drain commands c).2
  have hsettings : (step now (drain commands c).2).2.settings.lockoutTicks = L := by
    rw [hframe.settings, hdrained.settings]
  have hcount : (step now (drain commands c).2).2.session.unlockedTicks =
      credit L k ((entries k commands c).foldl grant g) := by
    rw [hframe.unlockedTicks, hdrained.unlockedTicks]
  have hgrant := grant_of_leavesUnlocked k g commands c
  rw [tick_eq]
  dsimp only
  split at hgrant
  · rename_i hleaves
    rw [if_pos hleaves]
    rw [hgrant] at hcount ⊢
    -- a fresh unlock is not counted down
    have hfresh : credit L k (some k) = credit L (k + 1) (some k) := by
      simp only [credit]
      omega
    exact ⟨⟨hsettings, hcount.trans hfresh⟩, fun j hj => by simp at hj; omega⟩
  · rename_i hleaves
    rw [if_neg hleaves]
    have holder : ∀ j, (entries k commands c).foldl grant g = some j → j < k := by
      rcases hgrant with hnone | hsame
      · rw [hnone]
        simp
      · rw [hsame]
        exact hg
    refine ⟨⟨hsettings, ?_⟩, fun j hj => Nat.lt_succ_of_lt (holder j hj)⟩
    change (step now (drain commands c).2).2.session.unlockedTicks - 1 = _
    rw [hcount, credit_succ holder]

/-- **Every command of a run is answered by the grant before it.** -/
theorem journal_lawful (hL : 1 ≤ L) {k : Nat} {g : Option Nat} {c : Controller τ α ρ κ}
    (h : Credited L k g c) (hg : ∀ j, g = some j → j < k)
    (ticks : List (List (Command α) × τ)) : Lawful L g (journal k ticks c) := by
  induction ticks generalizing k g c with
  | nil => trivial
  | cons tick rest ih =>
    obtain ⟨commands, now⟩ := tick
    obtain ⟨hnext, hnewer⟩ := tick_credited hL h hg commands now
    exact (entries_lawful hL h commands).1.append (ih hnext hnewer)

end Law

/-! ## The law of the lockout -/

theorem eq_unlock_iff {command : Command α} : command = .unlock ↔ command.changesState = false := by
  cases command <;> simp [Command.changesState]

/-- No command that needs an unlock is accepted among the entries. -/
def Unused (es : List (Entry τ α ρ κ)) : Prop :=
  ∀ e ∈ es, e.command.changesState = true → e.answer ≠ .ok ()

/-- What is granted was unlocked and not used since, or was granted before and not used at all. -/
theorem exists_of_granted {past : List (Entry τ α ρ κ)} {g : Option Nat} {j : Nat}
    (h : past.foldl grant g = some j) :
    (∃ older u since, past = older ++ u :: since ∧ u.command = .unlock ∧ u.tick = j ∧
      Unused since) ∨ (g = some j ∧ Unused past) := by
  induction past generalizing g with
  | nil => exact Or.inr ⟨h, fun e he => absurd he List.not_mem_nil⟩
  | cons p past ih =>
    rcases ih h with ⟨older, u, since, rfl, hu, htick, hsince⟩ | ⟨hg, hpast⟩
    · exact Or.inl ⟨p :: older, u, since, rfl, hu, htick, hsince⟩
    · cases hanswer : p.answer with
      | error r =>
        rw [grant_of_error g hanswer] at hg
        refine Or.inr ⟨hg, fun e he => ?_⟩
        rcases List.mem_cons.mp he with rfl | he
        · simp [hanswer]
        · exact hpast e he
      | ok =>
        rw [grant_of_ok g hanswer] at hg
        cases hs : p.command.changesState with
        | true => simp [hs] at hg
        | false =>
          simp only [hs, Bool.false_eq_true, if_false, Option.some.injEq] at hg
          exact Or.inl ⟨[], p, past, rfl, eq_unlock_iff.mpr hs, hg, hpast⟩

/-- A grant that is not used is kept or renewed. -/
theorem granted_of_unused {since : List (Entry τ α ρ κ)} {i j : Nat} (hj : i ≤ j)
    (horder : ∀ e ∈ since, i ≤ e.tick) (hsince : Unused since) :
    ∃ j', since.foldl grant (some j) = some j' ∧ i ≤ j' := by
  induction since generalizing j with
  | nil => exact ⟨j, rfl, hj⟩
  | cons e since ih =>
    have horder' : ∀ e ∈ since, i ≤ e.tick := fun e he => horder e (List.mem_cons_of_mem _ he)
    have hsince' : Unused since := fun e he => hsince e (List.mem_cons_of_mem _ he)
    rw [List.foldl_cons]
    cases hanswer : e.answer with
    | error r =>
      rw [grant_of_error _ hanswer]
      exact ih hj horder' hsince'
    | ok =>
      have hs : e.command.changesState = false := by
        rw [Bool.eq_false_iff]
        exact fun hs => hsince e List.mem_cons_self hs hanswer
      rw [grant_of_ok _ hanswer, hs]
      exact ih (horder e List.mem_cons_self) horder' hsince'

/-- **The law of the lockout.**  In every run, whatever its looks and its devices come to, a command
that changes the state is accepted just if an unlock was handled before it, not more than
`lockoutTicks` ticks ago, and no such command was accepted since.  A refused one changes nothing, so
neither device was called for it. -/
theorem accepted_iff_unlocked [Scalar α] [Timeline τ α] [Chronology τ] [Rotator.Device ρ α]
    [Radio.Device κ α] (satellite : Ephemeris τ α) (settings : Settings α) (rotator : Equipment ρ)
    (radio : Equipment κ) (ticks : List (List (Command α) × τ))
    (hlockout : 1 ≤ settings.lockoutTicks) {past newer : List (Entry τ α ρ κ)}
    {e : Entry τ α ρ κ}
    (hjournal : journal 0 ticks (fresh satellite settings rotator radio) = past ++ e :: newer)
    (he : e.command.changesState = true) :
    (e.answer = .ok () ↔ ∃ older u since, past = older ++ u :: since ∧ u.command = .unlock ∧
      u.tick ≤ e.tick ∧ e.tick - u.tick ≤ settings.lockoutTicks ∧ Unused since) ∧
    (e.answer ≠ .ok () → e.answer = .error .locked ∧ e.after = e.before) := by
  have hstart : Credited settings.lockoutTicks 0 none (fresh satellite settings rotator radio) :=
    ⟨rfl, rfl⟩
  have hlawful := journal_lawful hlockout hstart (by simp) ticks
  have hordered := journal_ordered 0 ticks (fresh satellite settings rotator radio)
  rw [hjournal] at hlawful hordered
  have hbefore : ∀ p ∈ past, p.tick ≤ e.tick := fun p hp =>
    (List.pairwise_append.mp hordered).2.2 p hp e List.mem_cons_self
  refine ⟨hlawful.at.accepted.trans ⟨fun h => ?_, ?_⟩, hlawful.at.refused⟩
  · obtain ⟨j, hj, hlate⟩ := h he
    rcases exists_of_granted hj with ⟨older, u, since, rfl, hu, rfl, hsince⟩ | ⟨hnone, -⟩
    · exact ⟨older, u, since, rfl, hu, hbefore u (by simp), by omega, hsince⟩
    · simp at hnone
  · rintro ⟨older, u, since, rfl, hu, -, hlate, hsince⟩ -
    have hchanges := eq_unlock_iff.mp hu
    rw [List.append_assoc] at hlawful
    have hanswer : u.answer = .ok () :=
      hlawful.at.accepted.mpr fun hs => absurd (hs.symm.trans hchanges) (by simp)
    have horder : ∀ m ∈ since, u.tick ≤ m.tick := fun m hm =>
      List.rel_of_pairwise_cons (List.pairwise_append.mp (List.pairwise_append.mp hordered).1).2.1 hm
    obtain ⟨j, hj, hnewer⟩ := granted_of_unused (Nat.le_refl u.tick) horder hsince
    refine ⟨j, ?_, by omega⟩
    rw [List.foldl_append, List.foldl_cons, grant_of_ok _ hanswer, hchanges]
    exact hj

/-- A run with an unlock of one tick and a satellite that cannot be observed. -/
def unobserved : Controller Instant Float (Rotator.Bench Float) (Radio.Bench Float) :=
  fresh ⟨"DECAYED", fun _ => .error (.propagation "decayed")⟩ { Settings.standard with lockoutTicks := 1 }
    (.connected ⟨⟨0, 0⟩, false, [], []⟩) (.connected ⟨[], []⟩)

/-- The unlock of the first tick, whose step fails, is good for one command in the second. -/
theorem accepted_iff_unlocked_next_tick :
    (entry 1 .start (tick [.unlock] ⟨0⟩ unobserved).2).answer = .ok () :=
  have hjournal : journal 0 [([.unlock], ⟨0⟩), ([.start, .stop], ⟨250000⟩)] unobserved =
      [entry 0 .unlock unobserved] ++ entry 1 .start (tick [.unlock] ⟨0⟩ unobserved).2 ::
        [entry 1 .stop (handle .start (tick [.unlock] ⟨0⟩ unobserved).2).2] := rfl
  (accepted_iff_unlocked _ _ _ _ _ (by decide) hjournal rfl).1.mpr
    ⟨[], entry 0 .unlock unobserved, [], rfl, rfl, by decide, by decide, by simp [Unused]⟩

end EarthStation.Tracking.Controller
