import EarthStation.Proofs.Rotator.Recovery

/-!
# Bookkeeping — what a link notes of its rotator

* `Rotator.Notes`, `Link.notes`: where the antenna was sent, and where it was said to be.
* `Link.report_cases`, `Link.set_cases`, `Link.exchange_cases`: what an operation notes.
* `Link.successes`, `Link.notes_after`: what is noted is what the operations that succeeded came to.
* `Link.BookkeepingLaw`, `Link.bookkeepingLaw_after`: what fails notes nothing, and what succeeds is
  noted.
-/

namespace EarthStation.Rotator

open Wire (Bytes Line Peer)

/-- Holds of the fault that a position is out of reach. -/
def Fault.isLimit {α : Type} : Fault α → Bool
  | limit _ _ => true
  | _ => false

/-- Where an operation sends the antenna, if it does. -/
def Operation.target? {α : Type} : Operation α → Option (Position α)
  | set target => some target
  | stop | status => none

/-- What a link notes: where the antenna was sent last, and where it was said to be. -/
structure Notes (α : Type) where
  commanded : Option (Position α)
  reported : Option (Position α)

namespace Link

variable {δ α : Type}

def notes (l : Link δ α) : Notes α := ⟨l.lastCommanded, l.lastReported⟩

variable [Peer δ] [Scalar α]

/-- An operation as a step; the answer is the position that comes back, if one does. -/
def exchange : Operation α → Exchange (Link δ α) (Fault α) (Option (Position α))
  | .stop => do pure (some (← stop))
  | .status => do pure (some (← status))
  | .set target => set target

/-! ## Single operations -/

/-- A failure that notes nothing and is not about the limits. -/
def Fails {β : Type} (x : Exchange (Link δ α) (Fault α) β) (l : Link δ α) : Prop :=
  ∃ e l', x l = (.error e, l') ∧ l'.notes = l.notes ∧ e.isLimit = false

omit [Peer δ] [Scalar α] in
/-- A step on the line notes nothing. -/
theorem onLine_cases {β : Type} (step : Exchange (Line δ) IoError β) (l : Link δ α) :
    (∃ b l', onLine step l = (.ok b, l') ∧ l'.notes = l.notes) ∨ Fails (onLine step) l := by
  unfold Fails onLine
  dsimp only
  rcases step l.line with ⟨e | b, line⟩
  · exact .inr ⟨.io e, _, rfl, rfl, rfl⟩
  · exact .inl ⟨b, _, rfl, rfl⟩

omit [Peer δ] [Scalar α] in
theorem Fails.bind {β γ : Type} {x : Exchange (Link δ α) (Fault α) β}
    {f : β → Exchange (Link δ α) (Fault α) γ} {l : Link δ α} (h : Fails x l) : Fails (x >>= f) l := by
  obtain ⟨e, l', hx, hnotes, he⟩ := h
  exact ⟨e, l', Exchange.run_bind_of_error hx, hnotes, he⟩

omit [Peer δ] [Scalar α] in
/-- What fails behind a step that notes nothing fails with it. -/
theorem Fails.of_ok {β γ : Type} {x : Exchange (Link δ α) (Fault α) β}
    {f : β → Exchange (Link δ α) (Fault α) γ} {l l' : Link δ α} {b : β} (hx : x l = (.ok b, l'))
    (hnotes : l'.notes = l.notes) (h : Fails (f b) l') : Fails (x >>= f) l := by
  obtain ⟨e, l'', hf, hnotes', he⟩ := h
  exact ⟨e, l'', (Exchange.run_bind_of_ok hx).trans hf, hnotes'.trans hnotes, he⟩

omit [Peer δ] in
/-- A reply that is not read has nothing to do with the limits. -/
theorem isLimit_of_decodeResponse {bytes : Bytes} {e : Fault α}
    (h : (decodeResponse bytes : Except (Fault α) (Position α)) = .error e) : e.isLimit = false := by
  have hangle {b₁ b₂ b₃ b₄ : UInt8} {e : Fault α}
      (h : (decodeAngle b₁ b₂ b₃ b₄ : Except (Fault α) α) = .error e) : e.isLimit = false := by
    unfold decodeAngle at h
    split at h <;> cases h
    rfl
  unfold decodeResponse at h
  split at h
  · split at h
    · cases h
      rfl
    · split at h
      · rename_i hazimuth
        cases h
        exact hangle hazimuth
      · rename_i helevation _
        cases h
        exact hangle helevation
      · cases h
  · cases h
    rfl

/-- A command that is answered by a position notes it. -/
theorem report_cases (command : Bytes) (l : Link δ α) :
    (∃ p l', report command l = (.ok p, l') ∧ l'.notes = { l.notes with reported := some p }) ∨
      Fails (report command) l := by
  unfold report
  rcases onLine_cases (Line.write command) l with ⟨⟨⟩, l₁, hwrite, hnotes₁⟩ | hfails
  · rcases onLine_cases (Line.read responseLength) l₁ with ⟨reply, l₂, hread, hnotes₂⟩ | hfails
    · cases hdecode : (decodeResponse reply : Except (Fault α) (Position α)) with
      | error e =>
        refine .inr (Fails.of_ok hwrite hnotes₁ (Fails.of_ok hread hnotes₂ ?_))
        refine ⟨e, l₂, ?_, rfl, isLimit_of_decodeResponse hdecode⟩
        rw [hdecode]
        rfl
      | ok p =>
        refine .inl ⟨p, { l₂ with lastReported := some p }, ?_, ?_⟩
        · rw [Exchange.run_bind_of_ok hwrite, Exchange.run_bind_of_ok hread, hdecode]
          rfl
        · rw [← hnotes₁, ← hnotes₂]
          rfl
    · exact .inr (Fails.of_ok hwrite hnotes₁ hfails.bind)
  · exact .inr hfails.bind

/-- A command that is answered by a position or by nothing, as it is asked for. -/
def ask (responds : Bool) (command : Bytes) : Exchange (Link δ α) (Fault α) (Option (Position α)) :=
  if responds then do
    let position ← report command
    pure (some position)
  else do
    onLine (Line.write command)
    pure none

theorem ask_cases (responds : Bool) (command : Bytes) (l : Link δ α) :
    (∃ r l', ask responds command l = (.ok r, l') ∧
        l'.notes = { l.notes with reported := r.or l.notes.reported }) ∨
      Fails (ask responds command) l := by
  cases responds with
  | true =>
    rcases report_cases command l with ⟨p, l', h, hnotes⟩ | hfails
    · exact .inl ⟨some p, l', Exchange.run_bind_of_ok h, hnotes⟩
    · exact .inr hfails.bind
  | false =>
    rcases onLine_cases (Line.write command) l with ⟨⟨⟩, l', h, hnotes⟩ | hfails
    · exact .inl ⟨none, l', Exchange.run_bind_of_ok h, hnotes⟩
    · exact .inr hfails.bind

/-- What the operation to go somewhere notes: where that was, and where the antenna was said to be. -/
theorem set_cases (target : Position α) (l : Link δ α) :
    (∃ e, set target l = (.error e, l)) ∨
      (∃ r l', set target l = (.ok r, l') ∧ l'.notes = ⟨some target, r.or l.notes.reported⟩) ∨
        Fails (set target) l := by
  cases hframe : (setFrame target : Except (Fault α) Bytes) with
  | error e =>
    refine .inl ⟨e, ?_⟩
    unfold set
    rw [hframe]
    rfl
  | ok command =>
    let note (reported : Option (Position α)) :
        Exchange (Link δ α) (Fault α) (Option (Position α)) := do
      Exchange.modify fun l => { l with lastCommanded := some target }
      pure reported
    have hset : set target l = (do note (← ask l.setResponds command)) l := by
      unfold set ask
      rw [hframe, Exchange.run_bind_of_ok (Exchange.run_ofExcept _ l),
        Exchange.run_bind_of_ok (Exchange.run_get l)]
      split <;> rw [Exchange.bind_assoc]
    unfold Fails
    rw [hset]
    rcases ask_cases l.setResponds command l with ⟨r, l', h, hnotes⟩ | hfails
    · refine .inr (.inl ⟨r, { l' with lastCommanded := some target },
        Exchange.run_bind_of_ok h, ?_⟩)
      exact congrArg (fun n : Notes α => { n with commanded := some target }) hnotes
    · exact .inr (.inr hfails.bind)

/-- **What an operation notes** if it succeeds; if it fails it notes nothing. -/
theorem exchange_cases (op : Operation α) (l : Link δ α) :
    (∃ r l', exchange op l = (.ok r, l') ∧
        l'.notes = ⟨op.target?.or l.notes.commanded, r.or l.notes.reported⟩) ∨
      ∃ e l', exchange op l = (.error e, l') ∧ l'.notes = l.notes ∧ (e.isLimit = true → l' = l) := by
  have hfailed {x : Exchange (Link δ α) (Fault α) (Option (Position α))} (h : Fails x l) :
      ∃ e l', x l = (.error e, l') ∧ l'.notes = l.notes ∧ (e.isLimit = true → l' = l) := by
    obtain ⟨e, l', hx, hnotes, he⟩ := h
    exact ⟨e, l', hx, hnotes, fun hlimit => by cases he.symm.trans hlimit⟩
  have hreport (command : Bytes) :
      (∃ r l', ask true command l = (.ok r, l') ∧ l'.notes = ⟨none.or l.notes.commanded,
        r.or l.notes.reported⟩) ∨ Fails (ask true command) l := ask_cases true command l
  cases op with
  | stop => exact (hreport stopFrame).imp id hfailed
  | status => exact (hreport statusFrame).imp id hfailed
  | set target =>
    rcases set_cases target l with ⟨e, h⟩ | ⟨r, l', h, hnotes⟩ | hfails
    · exact .inr ⟨e, l, h, rfl, fun _ => rfl⟩
    · exact .inl ⟨r, l', h, hnotes⟩
    · exact .inr (hfailed hfails)

/-! ## Runs -/

/-- An operation that succeeded, with what came back. -/
structure Success (α : Type) where
  op : Operation α
  answer : Option (Position α)

/-- The link after some operations, whether they answer or fail. -/
def after (l : Link δ α) (ops : List (Operation α)) : Link δ α :=
  ops.foldl (fun l op => (exchange op l).2) l

/-- The operations that succeed, oldest first. -/
def successes (l : Link δ α) : List (Operation α) → List (Success α)
  | [] => []
  | op :: ops =>
    match exchange op l with
    | (.ok answer, l) => ⟨op, answer⟩ :: l.successes ops
    | (.error _, l) => l.successes ops

/-- Where the antenna was sent last, and where it was said to be, as the successes tell it. -/
def notesOf (successes : List (Success α)) : Notes α where
  commanded := (successes.filterMap fun s => s.op.target?).getLast?
  reported := (successes.filterMap Success.answer).getLast?

omit [Peer δ] [Scalar α] in
theorem notesOf_cons (s : Success α) (ss : List (Success α)) : notesOf (s :: ss) =
    ⟨(notesOf ss).commanded.or s.op.target?, (notesOf ss).reported.or s.answer⟩ := by
  have hlast {β : Type} (f : Success α → Option β) :
      ((s :: ss).filterMap f).getLast? = (ss.filterMap f).getLast?.or (f s) := by
    rw [List.filterMap_cons]
    cases f s with
    | none => rw [Option.or_none]
    | some b =>
      dsimp only
      rw [← List.singleton_append, List.getLast?_append, List.getLast?_singleton]
  unfold notesOf
  rw [hlast, hlast]

/-- **A run notes its successes**, and nothing else. -/
theorem notes_after (ops : List (Operation α)) (l : Link δ α) :
    (l.after ops).notes = ⟨(notesOf (l.successes ops)).commanded.or l.notes.commanded,
      (notesOf (l.successes ops)).reported.or l.notes.reported⟩ := by
  induction ops generalizing l with
  | nil => rfl
  | cons op ops ih =>
    have hafter : l.after (op :: ops) = (exchange op l).2.after ops := rfl
    rw [hafter, successes]
    rcases exchange_cases op l with ⟨r, l', h, hnotes⟩ | ⟨e, l', h, hnotes, -⟩
    · rw [h, ih, hnotes, notesOf_cons, Option.or_assoc, Option.or_assoc]
    · rw [h, ih, hnotes]

/-! ## The law of the bookkeeping -/

/-- What a link notes of the given successes, and what its next operation notes. -/
structure BookkeepingLaw (ss : List (Success α)) (l : Link δ α) : Prop where
  noted : l.notes = notesOf ss
  failed {op : Operation α} {e : Fault α} {l' : Link δ α} : exchange op l = (.error e, l') →
    l'.lastCommanded = l.lastCommanded ∧ l'.lastReported = l.lastReported
  /-- What is out of reach changes nothing and is not even written. -/
  limited {op : Operation α} {azimuthDeg elevationDeg : α} {l' : Link δ α} :
    exchange op l = (.error (.limit azimuthDeg elevationDeg), l') → l' = l
  /-- The target of an operation is noted, if it has one, and the answer, if there is one. -/
  succeeded {op : Operation α} {r : Option (Position α)} {l' : Link δ α} :
    exchange op l = (.ok r, l') → l'.lastCommanded = op.target?.or l.lastCommanded ∧
      l'.lastReported = r.or l.lastReported

/-- A link that has done some operations notes those that succeeded. -/
theorem bookkeepingLaw_after (line : Line δ) (setResponds : Bool) (ops : List (Operation α)) :
    BookkeepingLaw ((ofLine line setResponds).successes ops) ((ofLine line setResponds).after ops) where
  noted := by
    have hnotes := notes_after ops (ofLine line setResponds : Link δ α)
    have hfresh : (ofLine line setResponds : Link δ α).notes = ⟨none, none⟩ := rfl
    rwa [hfresh, Option.or_none, Option.or_none] at hnotes
  failed {op e l'} h := by
    obtain ⟨r, l'', hok, -⟩ | ⟨e', l'', hfail, hnotes, -⟩ :=
      exchange_cases op ((ofLine line setResponds).after ops)
    · cases hok.symm.trans h
    · cases hfail.symm.trans h
      exact ⟨congrArg Notes.commanded hnotes, congrArg Notes.reported hnotes⟩
  limited {op azimuthDeg elevationDeg l'} h := by
    obtain ⟨r, l'', hok, -⟩ | ⟨e', l'', hfail, -, hlimit⟩ :=
      exchange_cases op ((ofLine line setResponds).after ops)
    · cases hok.symm.trans h
    · cases hfail.symm.trans h
      exact hlimit rfl
  succeeded {op r l'} h := by
    obtain ⟨r', l'', hok, hnotes⟩ | ⟨e', l'', hfail, -⟩ :=
      exchange_cases op ((ofLine line setResponds).after ops)
    · cases hok.symm.trans h
      exact ⟨congrArg Notes.commanded hnotes, congrArg Notes.reported hnotes⟩
    · cases hfail.symm.trans h

end Link

end EarthStation.Rotator
