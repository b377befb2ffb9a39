import CardChannels.Proofs.Table.Servers
import CardChannels.Proofs.Table.Waits

/-!
# What the status words show

The answer to a status request holds a word for every number that a channel can have. In every run
the words tell which numbers are in use, and show a link, a listening server or a dropped link only
where there is one.
-/
namespace CardChannels

/-- The parts of the status word of a channel that has a number. -/
theorem ChannelStatus.parts_word (status : ChannelStatus)
    (number : status.channel ∈ ChannelTable.numbers) :
    status.word ≠ 0 ∧ status.word >>> 8 &&& 0x07 = status.channel.toUInt16 ∧
      (status.word &&& 0x8000 ≠ 0 ↔ status.state = .established) ∧
      (status.word &&& 0x4000 ≠ 0 ↔ status.state = .listening) ∧
      (status.word &&& 0x00FF = 0x05 ↔ status.info = .linkDropped) := by
  have all : ∀ k ∈ ChannelTable.numbers, ∀ state ∈ LinkState.all,
      ∀ info ∈ [StatusNote.none, StatusNote.linkDropped],
      let word := ChannelStatus.word ⟨k, state, info⟩
      word ≠ 0 ∧ word >>> 8 &&& 0x07 = k.toUInt16 ∧
        (word &&& 0x8000 ≠ 0 ↔ state = .established) ∧
        (word &&& 0x4000 ≠ 0 ↔ state = .listening) ∧
        (word &&& 0x00FF = 0x05 ↔ info = .linkDropped) := by decide +kernel
  obtain ⟨k, state, info⟩ := status
  exact all k number state (by cases state <;> decide) info (by cases info <;> decide)

/-- What a status word shows of the channel that has a number. -/
structure Slot.ShownBy (k : UInt8) (word : UInt16) (s : Slot) : Prop where
  number : word >>> 8 &&& 0x07 = k.toUInt16
  /-- A link is not established and listening at once. -/
  exclusive : ¬(word &&& 0x8000 ≠ 0 ∧ word &&& 0x4000 ≠ 0)
  attached : word &&& 0x8000 ≠ 0 ∨ word &&& 0x4000 ≠ 0 → s.channel.attached = true
  listening : word &&& 0x4000 ≠ 0 → s.channel.kind = .tcpServer
  /-- A dropped link is a client's, which has no other. -/
  dropped : word &&& 0x00FF = 0x05 →
    s.channel.kind ≠ .tcpServer ∧ word &&& 0x8000 = 0 ∧ word &&& 0x4000 = 0

/-- A channel shows its link, unless it is marked as dropped. -/
theorem Channel.Truthful.status {c : Channel} (h : c.Truthful) :
    c.status = ⟨c.id, c.link, if c.dropped then .linkDropped else .none⟩ := by
  unfold Channel.status
  cases dropped : c.dropped with
  | false => rfl
  | true =>
    rw [(h.dropped dropped).2]
    rfl

/-- The word of a truthful channel shows what there is. -/
theorem Channel.Truthful.shownBy {s : Slot} (h : s.channel.Truthful)
    (number : s.channel.id ∈ ChannelTable.numbers) :
    s.channel.status.word ≠ 0 ∧ s.ShownBy s.channel.id s.channel.status.word := by
  obtain ⟨nonzero, numbered, established, listening, dropped⟩ :=
    ChannelStatus.parts_word s.channel.status (by rwa [h.status])
  have link : s.channel.status.state = s.channel.link := by rw [h.status]
  rw [link] at established listening
  refine ⟨nonzero, ?_, ?_, ?_, ?_, ?_⟩
  · rw [numbered, h.status]
  · rintro ⟨up, listens⟩
    cases (established.mp up).symm.trans (listening.mp listens)
  · rintro (up | listens)
    · exact h.attached (by simp [established.mp up])
    · exact h.attached (by simp [listening.mp listens])
  · exact fun listens => h.listening (listening.mp listens)
  · intro noted
    have marked : s.channel.dropped = true := by
      have note := dropped.mp noted
      rw [h.status] at note
      simpa using note
    obtain ⟨client, closed⟩ := h.dropped marked
    refine ⟨client, ?_, ?_⟩
    · simpa [closed] using established
    · simpa [closed] using listening

namespace ChannelTable

theorem mem_numbers {k : UInt8} : k ∈ numbers ↔ 1 ≤ k ∧ k ≤ 7 := by
  simp only [numbers, List.mem_cons, List.not_mem_nil, or_false, ← UInt8.toNat_inj,
    UInt8.le_iff_toNat_le, UInt8.reduceToNat]
  omega

/-- The word of a number is the one at its place. -/
theorem getElem?_words {t : ChannelTable} {k : UInt8} (number : k ∈ numbers) :
    t.words[k.toNat - 1]? =
      some (((t.slots.get? k).map fun s => s.channel.status.word).getD 0) := by
  have place : ∀ j ∈ numbers, numbers[j.toNat - 1]? = some j := by decide +kernel
  rw [words, List.getElem?_map, place k number, Option.map_some]
  cases t.slots.get? k <;> rfl

end ChannelTable

/-! Runs -/

variable {config : Config} {past : TableHistory} {t : ChannelTable} {k : UInt8} {s : Slot}

/-- In every run only a task that is attached reports: a client's does not after its partner has
gone, and no other loses its task. -/
theorem TableRun.attached_of_report (run : TableRun config past t) (hs : t.slots.get? k = some s)
    {r : Report} (admitted : past.Admits (.report k s.channel.generation r)) :
    s.channel.attached = true := by
  have begun := run.tracks.started admitted k s r hs (by simp [TableInput.heard])
  rcases (run.manned hs).task begun with attached | ⟨gone, client⟩
  · exact attached
  · exact absurd (run.kind_of_listens hs (CanReport.partner admitted gone)) client

theorem TableRun.truthful (run : TableRun config past t) (hs : t.slots.get? k = some s) :
    s.channel.Truthful := by
  induction run generalizing s with
  | start => cases hs
  | @step past t run input admitted ih =>
    refine (t.origin_step run.keyed input hs).channel_induction ?_ ?_ ?_
    · intro host reply settings _ _
      exact .new ..
    · exact fun s hs => ih hs
    · intro c done h heard
      refine h.step done fun r reported => ?_
      obtain ⟨⟨s, hs, rfl⟩, about⟩ := heard r reported
      exact run.attached_of_report hs (about ▸ admitted)

/-- In every run a status request is answered with seven words and changes nothing. A word is zero
just where no channel has its number. Any other word shows the number and, of the link, only what
the channel has: no link without a socket task, no listening but a server's, and no dropped link but
that of a client without another. -/
theorem status_words_truthful (run : TableRun config past t) (reply : Reply) :
    t.step (.channelStatus reply) =
        (t, .respond (reply.success .ok (some (.channelStatus t.words)))) ∧
      t.words.length = 7 ∧
      ∀ k : UInt8, 1 ≤ k → k ≤ 7 → ∃ word, t.words[k.toNat - 1]? = some word ∧
        (word = 0 ↔ t.slots.get? k = none) ∧
        ∀ s, t.slots.get? k = some s → s.ShownBy k word := by
  refine ⟨rfl, rfl, fun k low high => ?_⟩
  have number : k ∈ ChannelTable.numbers := ChannelTable.mem_numbers.mpr ⟨low, high⟩
  refine ⟨_, ChannelTable.getElem?_words number, ?_, ?_⟩
  · cases hs : t.slots.get? k with
    | none => simp
    | some s =>
      have shown := (run.truthful hs).shownBy ((run.keyed k s hs).symm ▸ number)
      simpa using shown.1
  · intro s hs
    have shown := (run.truthful hs).shownBy ((run.keyed k s hs).symm ▸ number)
    rw [run.keyed k s hs] at shown
    rw [hs]
    exact shown.2

/-- A client whose partner has gone, a server that listens, and a client with a link. -/
def droppedListeningLinked : List TableInput :=
  [.report 3 3 .ready, .report 2 2 .ready, .report 1 1 .readFailed, .report 1 1 .ready,
    .openChannel SteadyHost.connected.answers (.toCommand 3 .openChannel 0) .loopback,
    .openChannel SteadyHost.connected.answers (.toCommand 2 .openChannel 0)
      { ChannelSettings.loopback with protocol := .tcpServer },
    .openChannel SteadyHost.connected.answers (.toCommand 1 .openChannel 0) .loopback]

/-- The three are shown apart, and the last four numbers as free. -/
theorem dropped_listening_and_linked_shown :
    ∃ past t s₁ s₂ s₃, TableRun .standard past t ∧
      t.words = [0x0105, 0x4200, 0x8300, 0, 0, 0, 0] ∧
      t.slots.get? 1 = some s₁ ∧ s₁.channel.kind ≠ .tcpServer ∧
      t.slots.get? 2 = some s₂ ∧ s₂.channel.attached = true ∧ s₂.channel.kind = .tcpServer ∧
      t.slots.get? 3 = some s₃ ∧ s₃.channel.attached = true ∧ t.slots.get? 4 = none := by
  have run := Admissible.run
    (show Admissible .standard droppedListeningLinked by decide +kernel)
  obtain ⟨-, -, shown⟩ := status_words_truthful run (.toCommand 4 .getChannelStatus 0)
  have words : (replay .standard droppedListeningLinked).2.words =
      [0x0105, 0x4200, 0x8300, 0, 0, 0, 0] := by decide +kernel
  rw [words] at shown
  obtain ⟨_, ⟨⟩, used₁, about₁⟩ := shown 1 (by decide) (by decide)
  obtain ⟨_, ⟨⟩, used₂, about₂⟩ := shown 2 (by decide) (by decide)
  obtain ⟨_, ⟨⟩, used₃, about₃⟩ := shown 3 (by decide) (by decide)
  obtain ⟨_, ⟨⟩, used₄, -⟩ := shown 4 (by decide) (by decide)
  obtain ⟨s₁, hs₁⟩ := Option.ne_none_iff_exists'.mp (mt used₁.mpr (by decide))
  obtain ⟨s₂, hs₂⟩ := Option.ne_none_iff_exists'.mp (mt used₂.mpr (by decide))
  obtain ⟨s₃, hs₃⟩ := Option.ne_none_iff_exists'.mp (mt used₃.mpr (by decide))
  exact ⟨_, _, s₁, s₂, s₃, run, words, hs₁, ((about₁ s₁ hs₁).dropped (by decide)).1,
    hs₂, (about₂ s₂ hs₂).attached (.inr (by decide)), (about₂ s₂ hs₂).listening (by decide),
    hs₃, (about₃ s₃ hs₃).attached (.inl (by decide)), used₄.mp rfl⟩

end CardChannels
