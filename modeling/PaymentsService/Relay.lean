import PaymentsService.Outbox
import Mathlib.Data.List.Nodup

/-!
# The outbox relay over any number of passes

A service's outbox is written by two kinds of transactions: the business
transactions, each of which appends a row, and the passes of `OutboxPublisher`,
each of which locks the oldest unsent rows, writes them to the topic and marks
them sent or records the failed attempt.  This module runs the two in any
interleaving, with every outcome of every write and every database failure, and
proves what the spec asks of the table (§3 `OutboxRecord`, §4.1): no row is lost,
a sent row stays sent, `attempts` only grows, a row is sent only once its message
is on the topic, and an unsent row stays in the publisher's queue.

## Main definitions

* `OutboxRow.Later` — how a committed row may change later on.
* `Outbox.Rewrites` — what one pass does to the table: every row rewritten as
  `OutboxRow.Later` allows, none added or removed.
* `Outbox.Later` — what any run does to the table: `Rewrites`, with new rows after.
* `Outbox.WellFormed`, `Outbox.SentWritten` — ids handed out once by the
  `bigserial`; every row marked sent is on the topic.
* `OutboxOp`, `Relay`, `Relay.run` — the outbox and its topic under business
  inserts and publisher passes.

## Main results

* `publishOnce_rewrites`, `publishOnce_sentWritten` — one pass, whatever the
  writes report and whichever round trip fails.
* `Later.mem_lockUnsentOutbox` — an unsent row is locked by every later pass
  whose batch reaches past the unsent rows that were ahead of it.
* `clean_passes_publish_queue` — passes in which nothing fails work through the
  queue of unsent rows (`Outbox.unsent`) in order, `batch` rows a pass, and put
  the whole table on the topic once their batches cover it.
* `relay_run_laws` — the laws over every run.

## Design notes

**A row is followed by its id.**  The publisher marks rows by id, so what it
does to a row it locked lands on every row of that id.  `WellFormed` says ids are
unique, which makes the row a pass locked the only row its marks touch.  The
row-level laws are then stated positionally (`Outbox.Later` keeps every row in
its place) and need no ids.

**A pass is a map of the table.**  `MarkOutboxSent` and `MarkOutboxAttemptFailed`
rewrite rows in place, and a pass that does not commit leaves the table as it
was, so one pass rewrites each row by one function (`Rewrites`).  A business
transaction appends.  Any interleaving is therefore one function over the old
rows followed by the new ones (`Later.trans`).
-/

namespace PaymentsService

namespace OutboxRow

/-- **How a committed row may change later on**: its id, key and payload stay,
a set `sent_at` stays set, and `attempts` does not go down. -/
structure Later (r r' : OutboxRow) : Prop where
  id_eq : r'.id = r.id
  message_eq : r'.message = r.message
  sent : r.sentAt.isSome → r'.sentAt.isSome
  attempts_le : r.attempts ≤ r'.attempts

theorem Later.refl (r : OutboxRow) : Later r r := ⟨rfl, rfl, fun h => h, le_rfl⟩

theorem Later.trans {r₁ r₂ r₃ : OutboxRow} (h₁ : Later r₁ r₂) (h₂ : Later r₂ r₃) : Later r₁ r₃ :=
  ⟨h₂.id_eq.trans h₁.id_eq, h₂.message_eq.trans h₁.message_eq, h₂.sent ∘ h₁.sent,
    h₁.attempts_le.trans h₂.attempts_le⟩

/-- A row unsent after a change was unsent before it. -/
theorem Later.isNone {r r' : OutboxRow} (h : Later r r') (hn : r'.sentAt.isNone) : r.sentAt.isNone := by
  cases hr : r.sentAt with
  | none => rfl
  | some t =>
    have := h.sent (by rw [hr]; rfl)
    rw [Option.isNone_iff_eq_none] at hn
    rw [hn] at this
    cases this

end OutboxRow

namespace Outbox

/-- **What one pass does to the table**: every row rewritten by one function as
`OutboxRow.Later` allows; no row added or removed, the `bigserial` untouched. -/
def Rewrites (o o' : Outbox) : Prop :=
  ∃ f : OutboxRow → OutboxRow, (∀ r, OutboxRow.Later r (f r)) ∧ o'.rows = o.rows.map f ∧ o'.nextId = o.nextId

/-- **What any run does to the table**: every row of `o` is still there, in its
place, changed only as `OutboxRow.Later` allows, and new rows come after. -/
def Later (o o' : Outbox) : Prop :=
  ∃ f : OutboxRow → OutboxRow, (∀ r, OutboxRow.Later r (f r)) ∧ ∃ new, o'.rows = o.rows.map f ++ new

/-- Every id was handed out once by the table's `bigserial`. -/
structure WellFormed (o : Outbox) : Prop where
  lt_nextId : ∀ r ∈ o.rows, r.id < o.nextId
  nodup : (o.rows.map OutboxRow.id).Nodup

/-- Every row marked sent is on `topic`. -/
def SentWritten (topic : List KafkaMessage) (o : Outbox) : Prop :=
  ∀ r ∈ o.rows, r.sentAt.isSome → r.message ∈ topic

theorem Rewrites.refl (o : Outbox) : o.Rewrites o := ⟨id, OutboxRow.Later.refl, by simp, rfl⟩

theorem Rewrites.trans {o₁ o₂ o₃ : Outbox} : o₁.Rewrites o₂ → o₂.Rewrites o₃ → o₁.Rewrites o₃
  | ⟨f, hf, hr, hn⟩, ⟨g, hg, hr', hn'⟩ =>
    ⟨g ∘ f, fun r => (hf r).trans (hg (f r)), by rw [hr', hr, List.map_map], hn'.trans hn⟩

theorem Rewrites.later {o o' : Outbox} : o.Rewrites o' → o.Later o'
  | ⟨f, hf, hr, _⟩ => ⟨f, hf, [], by rw [hr, List.append_nil]⟩

theorem Later.refl (o : Outbox) : o.Later o := (Rewrites.refl o).later

theorem Later.trans {o₁ o₂ o₃ : Outbox} : o₁.Later o₂ → o₂.Later o₃ → o₁.Later o₃
  | ⟨f, hf, n, hr⟩, ⟨g, hg, m, hr'⟩ =>
    ⟨g ∘ f, fun r => (hf r).trans (hg (f r)), n.map g ++ m, by rw [hr', hr]; simp⟩

/-- A row of a rewritten table comes from a row of the old one with the same id
and message. -/
theorem Rewrites.exists_of_mem {o o' : Outbox} (h : o.Rewrites o') {x : OutboxRow} (hx : x ∈ o'.rows) :
    ∃ y ∈ o.rows, x.id = y.id ∧ x.message = y.message := by
  obtain ⟨f, hf, hr, -⟩ := h
  rw [hr] at hx
  obtain ⟨y, hy, rfl⟩ := List.mem_map.1 hx
  exact ⟨y, hy, (hf y).id_eq, (hf y).message_eq⟩

theorem later_insertOutbox (k : String) (p : Payload) (o : Outbox) : o.Later (o.insertOutbox k p).2 :=
  ⟨id, OutboxRow.Later.refl, [⟨o.nextId, k, p, none, 0, none⟩], by simp [insertOutbox]⟩

theorem rewrites_markOutboxSent (id now : Nat) (o : Outbox) : o.Rewrites (o.markOutboxSent id now) := by
  refine ⟨_, fun r => ?_, rfl, rfl⟩
  split
  · exact ⟨rfl, rfl, fun _ => rfl, le_rfl⟩
  · exact .refl r

theorem rewrites_markOutboxAttemptFailed (id : Nat) (e : String) (o : Outbox) :
    o.Rewrites (o.markOutboxAttemptFailed id e) := by
  refine ⟨_, fun r => ?_, rfl, rfl⟩
  split
  · exact ⟨rfl, rfl, fun h => h, Nat.le_succ _⟩
  · exact .refl r

/-! ### Well-formedness -/

theorem WellFormed.empty : empty.WellFormed := ⟨fun _ h => (List.not_mem_nil _ h).elim, List.nodup_nil⟩

theorem WellFormed.rewrites {o o' : Outbox} (hw : o.WellFormed) (h : o.Rewrites o') : o'.WellFormed := by
  obtain ⟨f, hf, hr, hn⟩ := h
  have ids : o'.rows.map OutboxRow.id = o.rows.map OutboxRow.id := by
    rw [hr, List.map_map]
    exact List.map_congr_left fun r _ => (hf r).id_eq
  refine ⟨fun x hx => ?_, ids ▸ hw.nodup⟩
  obtain ⟨y, hy, hid, -⟩ := Rewrites.exists_of_mem ⟨f, hf, hr, hn⟩ hx
  rw [hid, hn]
  exact hw.lt_nextId y hy

theorem WellFormed.insertOutbox {o : Outbox} (hw : o.WellFormed) (k : String) (p : Payload) :
    (o.insertOutbox k p).2.WellFormed := by
  refine ⟨fun x hx => ?_, ?_⟩
  · simp only [Outbox.insertOutbox, List.mem_append, List.mem_singleton] at hx ⊢
    rcases hx with hx | rfl
    · exact (hw.lt_nextId x hx).trans (Nat.lt_succ_self _)
    · exact Nat.lt_succ_self _
  · simp only [Outbox.insertOutbox, List.map_append, List.map_singleton]
    refine List.nodup_append.2 ⟨hw.nodup, List.nodup_singleton _, ?_⟩
    intro a ha hb
    obtain ⟨r, hr, rfl⟩ := List.mem_map.1 ha
    exact (hw.lt_nextId r hr).ne (List.mem_singleton.1 hb)

/-- In a table rewritten from a well-formed one, a row with the id of an old row
carries that row's message. -/
theorem Rewrites.message_eq {o v : Outbox} (hw : o.WellFormed) (h : o.Rewrites v) {r y : OutboxRow}
    (hr : r ∈ o.rows) (hy : y ∈ v.rows) (hid : y.id = r.id) : y.message = r.message := by
  obtain ⟨z, hz, hzid, hzm⟩ := h.exists_of_mem hy
  rw [hzm, List.inj_on_of_nodup_map hw.nodup hz hr (hzid.symm.trans hid)]

/-! ### Sent rows are on the topic -/

theorem SentWritten.mono {T T' : List KafkaMessage} {o : Outbox} (h : o.SentWritten T) (hT : T ⊆ T') :
    o.SentWritten T' :=
  fun r hr hs => hT (h r hr hs)

theorem SentWritten.insertOutbox {T : List KafkaMessage} {o : Outbox} (h : o.SentWritten T) (k : String)
    (p : Payload) : (o.insertOutbox k p).2.SentWritten T := by
  intro r hr hs
  simp only [Outbox.insertOutbox, List.mem_append, List.mem_singleton] at hr
  rcases hr with hr | rfl
  · exact h r hr hs
  · cases hs

theorem SentWritten.markOutboxAttemptFailed {T : List KafkaMessage} {o : Outbox} (h : o.SentWritten T)
    (id : Nat) (e : String) : (o.markOutboxAttemptFailed id e).SentWritten T := by
  intro x hx hs
  obtain ⟨y, hy, rfl⟩ := List.mem_map.1 hx
  by_cases hi : y.id = id
  · rw [if_pos hi] at hs ⊢; exact h y hy hs
  · rw [if_neg hi] at hs ⊢; exact h y hy hs

/-- Marking `id` sent keeps sent rows on the topic when every row of that id is. -/
theorem SentWritten.markOutboxSent {T : List KafkaMessage} {o : Outbox} (h : o.SentWritten T) {id : Nat}
    (hid : ∀ y ∈ o.rows, y.id = id → y.message ∈ T) (now : Nat) : (o.markOutboxSent id now).SentWritten T := by
  intro x hx hs
  obtain ⟨y, hy, rfl⟩ := List.mem_map.1 hx
  by_cases hi : y.id = id
  · rw [if_pos hi]; exact hid y hy hi
  · rw [if_neg hi] at hs ⊢; exact h y hy hs

end Outbox

/-! ## One pass -/

/-- **A pass's row loop rewrites the table it sees.** -/
theorem publishRows_rewrites (oc : PublishOutcomes) :
    ∀ (rows : List OutboxRow) (v : Outbox) (aborted : Bool) {v' : Outbox} {a : Bool},
      (publishRows oc rows v aborted).1 = .ok (v', a) → v.Rewrites v'
  | [], v, aborted, v', a, h => by
      simp only [publishRows, Except.ok.injEq, Prod.mk.injEq] at h
      rw [← h.1]
      exact .refl v
  | r :: rows, v, aborted, v', a, h => by
      simp only [publishRows] at h
      split at h
      · split at h
        · exact publishRows_rewrites oc rows _ _ h
        · exact (Outbox.rewrites_markOutboxAttemptFailed _ _ v).trans (publishRows_rewrites oc rows _ _ h)
      · split at h
        · cases h
        · exact (Outbox.rewrites_markOutboxSent _ _ v).trans (publishRows_rewrites oc rows _ _ h)

/-- **A pass's row loop marks a row sent only after writing it.**  The table the
transaction sees is a rewrite of the committed one `o`, whose ids are unique, so
the only rows a mark touches carry the message of the locked row it names. -/
theorem publishRows_sentWritten (oc : PublishOutcomes) {o : Outbox} (hw : o.WellFormed) :
    ∀ (rows : List OutboxRow) (v : Outbox) (aborted : Bool) (T : List KafkaMessage) {v' : Outbox} {a : Bool},
      (∀ r ∈ rows, r ∈ o.rows) → o.Rewrites v → v.SentWritten T →
      (publishRows oc rows v aborted).1 = .ok (v', a) → v'.SentWritten (T ++ (publishRows oc rows v aborted).2)
  | [], v, aborted, T, v', a, _, _, hs, h => by
      simp only [publishRows, Except.ok.injEq, Prod.mk.injEq, List.append_nil] at h ⊢
      rw [← h.1]
      exact hs
  | r :: rows, v, aborted, T, v', a, hrows, hv, hs, h => by
      have hr : r ∈ o.rows := hrows r (List.mem_cons_self _ _)
      have hrows' : ∀ x ∈ rows, x ∈ o.rows := fun x hx => hrows x (List.mem_cons_of_mem _ hx)
      have ih := publishRows_sentWritten oc hw rows
      cases hwr : oc.write r.id with
      | failed err stored =>
        have out : T ⊆ T ++ (if stored then [r.message] else []) := List.subset_append_left _ _
        cases hab : (aborted || oc.markFails r.id) <;>
          simp only [publishRows, hwr, hab, WriteResult.stored, ite_true, ite_false, Bool.false_eq_true,
            ← List.append_assoc] at h ⊢
        · exact ih _ _ _ hrows' (hv.trans (Outbox.rewrites_markOutboxAttemptFailed _ _ v))
            ((hs.mono out).markOutboxAttemptFailed _ _) h
        · exact ih _ _ _ hrows' hv (hs.mono out) h
      | ok =>
        cases hab : (aborted || oc.markFails r.id) <;>
          simp only [publishRows, hwr, hab, WriteResult.stored, ite_true, ite_false, Bool.false_eq_true,
            ← List.append_assoc] at h ⊢
        · refine ih _ _ _ hrows' (hv.trans (Outbox.rewrites_markOutboxSent _ _ v))
            ((hs.mono (List.subset_append_left _ _)).markOutboxSent (fun y hy hid => ?_) _) h
          rw [hv.message_eq hw hr hy hid]
          exact List.mem_append_right _ (List.mem_singleton_self _)
        · cases h

/-- **A pass rewrites the committed table**, whatever its writes report and
whichever of its round trips fails: a pass that does not commit leaves it as it
was. -/
theorem publishOnce_rewrites (batch : Nat) (oc : PublishOutcomes) (o : Outbox) :
    o.Rewrites (publishOnce batch oc o).1 := by
  rcases publishOnce_cases batch oc o with h | ⟨rows, -, h⟩ <;> rw [h]
  · exact .refl o
  · dsimp only [commitPass]
    split
    · split
      · exact .refl o
      · exact publishRows_rewrites oc _ o false ‹_›
    · exact .refl o

/-- **A pass marks a row sent only if it wrote the row's message.** -/
theorem publishOnce_sentWritten (batch : Nat) (oc : PublishOutcomes) {o : Outbox} (hw : o.WellFormed)
    {T : List KafkaMessage} (hs : o.SentWritten T) :
    (publishOnce batch oc o).1.SentWritten (T ++ (publishOnce batch oc o).2) := by
  rcases publishOnce_cases batch oc o with h | ⟨rows, hrows, h⟩ <;> rw [h]
  · simpa using hs
  · dsimp only [commitPass]
    split
    · split
      · exact hs.mono (List.subset_append_left _ _)
      · exact publishRows_sentWritten oc hw _ o false T
          (fun _ hr => Outbox.mem_rows_of_mem_lockUnsentOutbox (hrows ▸ hr)) (.refl o) hs ‹_›
    · exact hs.mono (List.subset_append_left _ _)

/-! ## The publisher's queue -/

/-- An element is among the first `n` of a list when fewer than `n` come before it. -/
theorem mem_take_of_length_lt {α : Type} {pre rest : List α} {x : α} {n : Nat} (h : pre.length < n) :
    x ∈ (pre ++ x :: rest).take n := by
  rw [List.take_append_eq_append_take, show n - pre.length = (n - pre.length - 1) + 1 by omega,
    List.take_succ_cons]
  exact List.mem_append_right _ (List.mem_cons_self _ _)

/-- **An unsent row stays in the publisher's queue, and never moves back in it.**
If `r` had `k` unsent rows ahead of it in `o`, and its later version `r'` is still
unsent, then every later pass whose batch exceeds `k` locks `r'`: rows committed
since come after it, and a row ahead of it only leaves the queue. -/
theorem Outbox.Later.mem_lockUnsentOutbox {o o' : Outbox} (h : o.Later o') (hw : o'.WellFormed)
    {pre post : List OutboxRow} {r : OutboxRow} (ho : o.rows = pre ++ r :: post) {r' : OutboxRow}
    (hr' : r' ∈ o'.rows) (hid : r'.id = r.id) (hu : r'.sentAt = none) {batch : Nat}
    (hb : (pre.filter fun x => x.sentAt.isNone).length < batch) : r' ∈ o'.lockUnsentOutbox batch := by
  obtain ⟨f, hf, new, hrows⟩ := h
  rw [ho, List.map_append, List.map_cons, List.append_assoc, List.cons_append] at hrows
  have hfr : f r ∈ o'.rows := by rw [hrows]; exact List.mem_append_right _ (List.mem_cons_self _ _)
  obtain rfl : r' = f r :=
    List.inj_on_of_nodup_map hw.nodup hr' hfr (hid.trans (hf r).id_eq.symm)
  have ahead : ((pre.map f).filter fun x => x.sentAt.isNone).length < batch := by
    refine lt_of_le_of_lt ?_ hb
    simp only [← List.countP_eq_length_filter, List.countP_map]
    exact List.countP_mono_left fun x _ hx => (hf x).isNone hx
  unfold lockUnsentOutbox
  rw [hrows, List.filter_append, List.filter_cons_of_pos (by simp [hu])]
  exact mem_take_of_length_lt ahead

/-! ## Clean passes -/

/-- The unsent rows of the table, oldest first: the publisher's queue. -/
def Outbox.unsent (o : Outbox) : List OutboxRow := o.rows.filter fun r => r.sentAt.isNone

/-- Dropping the elements whose key is among the keys of the first `n` drops the
first `n`, when keys are distinct. -/
theorem filter_not_mem_take {α β : Type} [DecidableEq β] {f : α → β} {l : List α} (h : (l.map f).Nodup)
    (n : Nat) : l.filter (fun x => f x ∉ (l.take n).map f) = l.drop n := by
  conv_lhs => rw [← List.take_append_drop n l]
  rw [← List.take_append_drop n l, List.map_append, List.nodup_append] at h
  rw [List.filter_append, List.filter_eq_nil_iff.2 fun x hx => by simpa using List.mem_map_of_mem f hx,
    List.filter_eq_self.2 fun x hx => by simpa using fun hm => h.2.2 hm (List.mem_map_of_mem f hx),
    List.nil_append]

theorem unsent_markSentAll (ids : List Nat) (now : Nat) (o : Outbox) :
    (o.markSentAll ids now).unsent = o.unsent.filter fun x => x.id ∉ ids := by
  obtain ⟨rows, next⟩ := o
  simp only [Outbox.unsent, Outbox.markSentAll]
  induction rows with
  | nil => rfl
  | cons r rows ih => by_cases h : r.id ∈ ids <;> cases hs : r.sentAt <;> simp_all [List.filter_cons]

/-- **A clean pass sends exactly the oldest `batch` unsent rows.** -/
theorem unsent_publishOnce_clean {o : Outbox} (hw : o.WellFormed) {batch : Nat} (hb : batch < 2 ^ 31) (now : Nat) :
    (publishOnce batch (.clean now) o).1.unsent = o.unsent.drop batch := by
  rw [publishOnce_clean hb, unsent_markSentAll]
  exact filter_not_mem_take (hw.nodup.sublist ((List.filter_sublist _).map _)) batch

/-! ## Runs -/

/-- What happens to one service's outbox: a business transaction that commits a
new row, or one pass of the publisher. -/
inductive OutboxOp
  | insert (kafkaKey : String) (payload : Payload)
  | publish (batch : Nat) (oc : PublishOutcomes)

/-- One service's outbox and every record its publisher wrote to the topic. -/
structure Relay where
  outbox : Outbox
  topic : List KafkaMessage

namespace Relay

/-- **One operation on the outbox and its topic.** -/
def step (s : Relay) : OutboxOp → Relay
  | .insert k p => ⟨(s.outbox.insertOutbox k p).2, s.topic⟩
  | .publish batch oc => let p := publishOnce batch oc s.outbox; ⟨p.1, s.topic ++ p.2⟩

@[simp] theorem step_publish (s : Relay) (batch : Nat) (oc : PublishOutcomes) :
    s.step (.publish batch oc) = ⟨(publishOnce batch oc s.outbox).1, s.topic ++ (publishOnce batch oc s.outbox).2⟩ :=
  rfl

/-- The outbox and topic after running `ops` in order. -/
def run (s : Relay) : List OutboxOp → Relay
  | [] => s
  | op :: ops => (s.step op).run ops

/-- Ids handed out once, and every sent row on the topic. -/
structure Inv (s : Relay) : Prop where
  wellFormed : s.outbox.WellFormed
  sentWritten : s.outbox.SentWritten s.topic

theorem Inv.step {s : Relay} (h : s.Inv) : ∀ op, (s.step op).Inv
  | .insert k p => ⟨h.wellFormed.insertOutbox k p, h.sentWritten.insertOutbox k p⟩
  | .publish batch oc =>
    ⟨h.wellFormed.rewrites (publishOnce_rewrites batch oc _), publishOnce_sentWritten batch oc h.wellFormed h.sentWritten⟩

theorem later_step (s : Relay) : ∀ op, s.outbox.Later (s.step op).outbox ∧ s.topic <+: (s.step op).topic
  | .insert k p => ⟨Outbox.later_insertOutbox k p _, List.prefix_refl _⟩
  | .publish batch oc => ⟨(publishOnce_rewrites batch oc _).later, List.prefix_append _ _⟩

@[simp] theorem run_nil (s : Relay) : s.run [] = s := rfl

@[simp] theorem run_cons (s : Relay) (op : OutboxOp) (ops : List OutboxOp) : s.run (op :: ops) = (s.step op).run ops :=
  rfl

theorem run_append (s : Relay) : ∀ ops₁ ops₂, s.run (ops₁ ++ ops₂) = (s.run ops₁).run ops₂
  | [], _ => rfl
  | op :: ops₁, ops₂ => run_append (s.step op) ops₁ ops₂

/-- The empty table and topic a service starts with. -/
theorem Inv.empty : Inv ⟨Outbox.empty, []⟩ := ⟨.empty, fun _ h => (List.not_mem_nil _ h).elim⟩

theorem Inv.run {s : Relay} (h : s.Inv) : ∀ ops, (s.run ops).Inv
  | [] => h
  | op :: ops => (h.step op).run ops

theorem later_run (s : Relay) : ∀ ops, s.outbox.Later (s.run ops).outbox ∧ s.topic <+: (s.run ops).topic
  | [] => ⟨.refl _, List.prefix_refl _⟩
  | op :: ops =>
    let h := later_step s op
    let h' := later_run (s.step op) ops
    ⟨h.1.trans h'.1, h.2.trans h'.2⟩

/-- **Clean passes work through the queue in order**: `n` clean passes with batch
`batch` keep every message and send the oldest `n * batch` unsent rows. -/
theorem run_clean {s : Relay} (hw : s.outbox.WellFormed) {batch : Nat} (hb : batch < 2 ^ 31) (now n : Nat) :
    (s.run (List.replicate n (.publish batch (.clean now)))).outbox.messages = s.outbox.messages ∧
      (s.run (List.replicate n (.publish batch (.clean now)))).outbox.unsent = s.outbox.unsent.drop (n * batch) := by
  induction n generalizing s with
  | zero => exact ⟨rfl, by simp⟩
  | succ n ih =>
    have hw' : (s.step (.publish batch (.clean now))).outbox.WellFormed := by
      simp only [step_publish]; exact hw.rewrites (publishOnce_rewrites batch (.clean now) s.outbox)
    obtain ⟨h1, h2⟩ := ih hw'
    simp only [List.replicate_succ, run_cons, step_publish] at h1 h2 ⊢
    refine ⟨h1.trans (publishOnce_messages batch (.clean now) s.outbox), h2.trans ?_⟩
    rw [unsent_publishOnce_clean hw hb, List.drop_drop, Nat.succ_mul, Nat.add_comm]

/-- **Clean passes that cover the table publish all of it**: every message of the
outbox is on the topic once the batches of `n` clean passes add up to its rows. -/
theorem Inv.run_clean_written {s : Relay} (hs : s.Inv) {n batch : Nat} (hb : batch < 2 ^ 31) (now : Nat)
    (hn : s.outbox.rows.length ≤ n * batch) :
    ∀ m ∈ s.outbox.messages, m ∈ (s.run (List.replicate n (.publish batch (.clean now)))).topic := by
  intro m hm
  obtain ⟨hmsgs, hunsent⟩ := run_clean hs.wellFormed hb now n
  rw [← hmsgs] at hm
  obtain ⟨r, hr, rfl⟩ := List.mem_map.1 hm
  have hnil : (s.run (List.replicate n (.publish batch (.clean now)))).outbox.unsent = [] := by
    rw [hunsent, List.drop_eq_nil_of_le (show s.outbox.unsent.length ≤ n * batch from
      (List.length_filter_le _ _).trans hn)]
  have hsent : r.sentAt.isSome := by simpa [Option.isSome_iff_ne_none] using List.filter_eq_nil_iff.1 hnil r hr
  exact (hs.run _).sentWritten r hr hsent

/-- **The publisher works through its queue in order.**  From a table whose ids
the `bigserial` handed out and whose sent rows are on the topic, `n` clean passes
with a batch size `batch` that `int32(p.batch)` keeps keep every row's key and
payload and send exactly the oldest `n * batch` unsent rows; once `n * batch`
covers the table, every message of it is on the topic. -/
theorem clean_passes_publish_queue {s : Relay} (hs : s.Inv) (n : Nat) {batch : Nat} (hb : batch < 2 ^ 31)
    (now : Nat) :
    (s.run (List.replicate n (.publish batch (.clean now)))).outbox.messages = s.outbox.messages ∧
      (s.run (List.replicate n (.publish batch (.clean now)))).outbox.unsent = s.outbox.unsent.drop (n * batch) ∧
      (s.outbox.rows.length ≤ n * batch →
        ∀ m ∈ s.outbox.messages, m ∈ (s.run (List.replicate n (.publish batch (.clean now)))).topic) :=
  let h := run_clean hs.wellFormed hb now n
  ⟨h.1, h.2, hs.run_clean_written hb now⟩

theorem clean_passes_publish_queue_four_rows :
    let s : Relay := ⟨⟨[⟨1, "a", .undecodable, some 0, 0, none⟩, ⟨2, "b", .undecodable, none, 0, none⟩,
      ⟨3, "c", .undecodable, none, 1, some "timeout"⟩, ⟨4, "d", .undecodable, none, 0, none⟩], 5⟩,
      [⟨"a", .undecodable⟩]⟩
    s.Inv ∧ 2 < 2 ^ 31 ∧
      (s.run (List.replicate 2 (.publish 2 (.clean 7)))).outbox.messages = s.outbox.messages ∧
      (s.run (List.replicate 2 (.publish 2 (.clean 7)))).outbox.unsent = s.outbox.unsent.drop (2 * 2) ∧
      (s.outbox.rows.length ≤ 2 * 2 →
        ∀ m ∈ s.outbox.messages, m ∈ (s.run (List.replicate 2 (.publish 2 (.clean 7)))).topic) := by
  intro s
  have hs : s.Inv := ⟨⟨by decide, by decide⟩, by unfold Outbox.SentWritten; decide⟩
  exact ⟨hs, by decide, clean_passes_publish_queue hs 2 (by decide) 7⟩

end Relay

/-- **The outbox relay loses nothing.**  Run any interleaving of business
transactions that commit outbox rows and publisher passes, each pass with any
outcome of each write and any failure of `LockUnsentOutbox`, `MarkOutboxSent`,
`MarkOutboxAttemptFailed` or the commit, from a table whose ids the `bigserial`
handed out and whose sent rows are on the topic.  Then every row is still there,
in its place, with its key and payload; a row committed as sent stays sent; its
`attempts` never went down; the topic only grew; every row committed as sent is on
the topic, written by that pass or an earlier one; and a row still unsent is
locked by every later pass whose batch reaches past the unsent rows that were
ahead of it. -/
theorem relay_run_laws (s : Relay) (hs : s.Inv) (ops : List OutboxOp) :
    s.outbox.Later (s.run ops).outbox ∧ s.topic <+: (s.run ops).topic ∧ (s.run ops).Inv ∧
      ∀ pre r post, s.outbox.rows = pre ++ r :: post → ∀ r' ∈ (s.run ops).outbox.rows, r'.id = r.id →
        r'.sentAt = none → ∀ batch, (pre.filter fun x => x.sentAt.isNone).length < batch →
          r' ∈ (s.run ops).outbox.lockUnsentOutbox batch :=
  have hl := Relay.later_run s ops
  have hi := hs.run ops
  ⟨hl.1, hl.2, hi, fun _ _ _ ho _ hr' hid hu _ hb =>
    hl.1.mem_lockUnsentOutbox hi.wellFormed ho hr' hid hu hb⟩

theorem relay_run_laws_from_empty :
    let s : Relay := ⟨Outbox.empty, []⟩
    let ops := [OutboxOp.insert "o" .undecodable,
      .publish 50 ⟨false, false, fun _ => .failed "timeout" true, fun _ => false, false, 0⟩,
      .publish 50 ⟨false, false, fun _ => .ok, fun _ => false, false, 1⟩]
    s.Inv ∧ (s.outbox.Later (s.run ops).outbox ∧ s.topic <+: (s.run ops).topic ∧ (s.run ops).Inv ∧
      ∀ pre r post, s.outbox.rows = pre ++ r :: post → ∀ r' ∈ (s.run ops).outbox.rows, r'.id = r.id →
        r'.sentAt = none → ∀ batch, (pre.filter fun x => x.sentAt.isNone).length < batch →
          r' ∈ (s.run ops).outbox.lockUnsentOutbox batch) :=
  ⟨Relay.Inv.empty, relay_run_laws _ Relay.Inv.empty _⟩

end PaymentsService
