import CardChannels.Proofs.Table.SlotStep

/-!
# Every input is a step

Each command, report and other input of a table changes its slots in the ways that a step allows,
provided that the first report of a socket task, and no later one, tells how its open went.
-/
namespace CardChannels

namespace ChannelTable

variable {t : ChannelTable} {input : TableInput} {result : ChannelTable × Output} {s : Slot}

/-- An input that is only answered does nothing to any slot. -/
theorem stepped_respond (r : TerminalResponse) (unheard : ∀ k g, input.heard k g = none) :
    t.Stepped input (t, .respond r) :=
  stepped_of_unchanged rfl (Nat.le_refl _) rfl fun k _ _ => unheard k _

theorem stepped_openChannel (host : Host) (reply : Reply) (settings : ChannelSettings) :
    t.Stepped (.openChannel host reply settings) (t.openChannel host reply settings) := by
  rcases t.openChannel_progress host reply settings with ⟨cause, h⟩ |
    ⟨s, modified, hnone, hgen, hphase, hp, h⟩
  · rw [h]
    exact stepped_respond _ fun _ _ => rfl
  · -- The new slot is put first, and the open goes on from the table with it.
    have hcreated : ∃ after effects orders,
        OnSlot ({ t with generation := t.generation + 1 }.put s) s.channel.id
          s.channel.generation after effects orders (t.openChannel host reply settings) ∧
        SlotStep t.generation (t.generation + 1) s.channel.id (.openChannel host reply settings)
          (t.openChannel host reply settings).2 none after := by
      cases h with
      | waits effects h =>
        refine ⟨_, _, _, h, .created rfl (by omega) (by omega) ?_ hp rfl⟩
        simp [hphase]
      | givenUp refusal h => exact ⟨_, _, _, h, .unused⟩
      | started channel continues orders h =>
        have hnew := continues.generation.trans hgen
        refine ⟨_, _, _, h, .created continues.id ?_ ?_ ?_ hp rfl⟩
        · exact hnew ▸ Nat.lt_succ_self _
        · exact Nat.le_of_eq hnew
        · simp
    obtain ⟨after, effects, orders, h, own⟩ := hcreated
    have hgeneration : (t.openChannel host reply settings).1.generation = t.generation + 1 :=
      h.generation
    constructor
    · intro k
      by_cases hk : k = s.channel.id
      · rw [hk, h.self, hnone, hgeneration]
        exact own
      · rw [h.other hk, get?_put, if_neg hk]
        exact .same (fun g => h.told_other hk) fun _ _ => rfl
    · omega
    · intro k g hg
      exact h.told_eq_nil (by omega)

theorem stepped_closeChannel (sound : t.Sound) (reply : Reply) (k : UInt8)
    (keepListening : Bool) :
    t.Stepped (.closeChannel reply k keepListening) (t.closeChannel reply k keepListening) := by
  rcases hs : t.slots.get? k with _ | s
  · have h : t.closeChannel reply k keepListening =
        (t, .respond (reply.failure (.ofCause .channelIdNotValid) none)) := by
      simp only [closeChannel, hs]
    rw [h]
    exact stepped_respond _ fun _ _ => rfl
  · obtain rfl := (sound.slot k s hs).id
    obtain ⟨after, hafter, h⟩ := closeChannel_onSlot reply keepListening hs
    refine h.stepped (sound.generation _ s hs) ?_ fun _ _ _ => rfl
    rw [hs]
    rcases hafter with rfl | ⟨channel, continues, rfl⟩
    · exact .closed rfl
    · refine .worked continues ?_ fun r hr => by cases hr
      rw [h.told_self]
      exact Channel.minor_close keepListening

theorem stepped_sendData (sound : t.Sound) (reply : Reply) (data : Transfer) (immediate : Bool) :
    t.Stepped (.sendData reply data immediate) (t.sendData reply data immediate) := by
  rcases hs : t.slots.get? data.channel with _ | s
  · have h : t.sendData reply data immediate =
        (t, .respond (reply.failure (.ofCause .channelIdNotValid) none)) := by
      simp only [sendData, hs]
    rw [h]
    exact stepped_respond _ fun _ _ => rfl
  · have hd := (sound.slot _ s hs).id
    obtain ⟨channel, continues, ⟨r, h⟩ | ⟨free, bytes, rfl, hphase, hp, h⟩⟩ :=
      sendData_onSlot reply data immediate hs hd
    · refine h.stepped (sound.generation _ s hs) ?_ fun _ _ _ => rfl
      rw [hd, hs]
      refine .worked continues ?_ fun r hr => by cases hr
      rw [← hd, h.told_self]
      simp
    · refine h.stepped (sound.generation _ s hs) ?_ fun _ _ _ => rfl
      rw [hd, hs]
      exact .flushing continues rfl hphase hp (by rw [← hd, h.told_self])

theorem stepped_receiveData (sound : t.Sound) (reply : Reply) (data : Transfer) :
    t.Stepped (.receiveData reply data) (t.receiveData reply data) := by
  rcases hs : t.slots.get? data.channel with _ | s
  · have h : t.receiveData reply data =
        (t, .respond (reply.failure (.ofCause .channelIdNotValid) none)) := by
      simp only [receiveData, hs]
    rw [h]
    exact stepped_respond _ fun _ _ => rfl
  · have hd := (sound.slot _ s hs).id
    obtain ⟨channel, r, continues, h⟩ := receiveData_onSlot reply data hs
    refine h.stepped (sound.generation _ s hs) ?_ fun _ _ _ => rfl
    rw [hd, hs]
    refine .worked continues ?_ fun r hr => by cases hr
    rw [← hd, h.told_self]
    exact Channel.minor_receive data.length

theorem heard_report_self (s : Slot) (r : Report) :
    (TableInput.report s.channel.id s.channel.generation r).heard s.channel.id
      s.channel.generation = some r := by
  simp [TableInput.heard]

/-- A report is a step when what its upshot does to the slot is one. -/
theorem stepped_of_upshot (sound : t.Sound) (hs : t.slots.get? s.channel.id = some s) {r : Report}
    {channel : Channel} {told : Upshot} {orders : List Order}
    (hr : s.channel.report r = (channel, told, orders))
    {after : Option Slot} {effects : List Effect}
    (h : t.OnSlot s.channel.id s.channel.generation after effects []
      (t.applyUpshot { s with channel := channel } told))
    (own : ∀ (next : Nat) (out : Output), out.effects = effects →
      out.told s.channel.id s.channel.generation = orders →
      SlotStep t.generation next s.channel.id (.report s.channel.id s.channel.generation r) out
        (some s) after) :
    t.Stepped (.report s.channel.id s.channel.generation r)
      (t.report s.channel.id s.channel.generation r) := by
  have heq := report_eq hs r
  rw [hr] at heq
  have h := h.order orders
  rw [List.append_nil] at h
  rw [heq]
  apply h.stepped (sound.generation _ s hs)
  · rw [hs]
    exact own _ _ h.effects h.told_self
  · intro j hj n
    simp [TableInput.heard, Ne.symm hj]

/-- The first report of a socket task, and no later one, must meet an open that waits for it. -/
theorem stepped_current (sound : t.Sound) (hs : t.slots.get? s.channel.id = some s) (r : Report)
    (first : s.phase ≠ .opened ↔ r = .ready ∨ r = .openFailed) :
    t.Stepped (.report s.channel.id s.channel.generation r)
      (t.report s.channel.id s.channel.generation r) := by
  have opening := (sound.slot _ s hs).pending
  have opened (h : ¬(r = .ready ∨ r = .openFailed)) : s.phase = .opened :=
    Decidable.not_not.mp (mt first.mp h)
  have heard := heard_report_self s r
  have continues := Channel.report_continues (c := s.channel) r
  have minor := Channel.minor_report (c := s.channel) r
  have meaning := s.channel.meaning_report r
  rcases hr : s.channel.report r with ⟨channel, told, orders⟩
  rw [hr] at continues minor meaning
  dsimp only at continues minor meaning
  have worked (ht : told = .ignored ∨ (∃ status available, told = .dataAvailable status available) ∨
      ∃ status, told = .statusChanged status ∧ status.state = .established)
      (hnot : ¬(r = .ready ∨ r = .openFailed)) (hsent : r.tellsSent = false) :
      t.Stepped (.report s.channel.id s.channel.generation r)
        (t.report s.channel.id s.channel.generation r) := by
    obtain ⟨effects, h⟩ := applyUpshot_worked (t := t) continues ht
    refine stepped_of_upshot sound hs hr h fun _ out _ htold =>
      .worked continues (by rwa [htold]) ?_
    intro r' hr'
    obtain rfl := Option.some.inj (heard.symm.trans hr')
    exact ⟨opened hnot, hsent⟩
  cases meaning with
  | ready status =>
    obtain ⟨reply, modified, hp⟩ := opening.mp (first.mpr (.inl rfl))
    obtain ⟨r, hd, h⟩ := applyUpshot_opened (t := t) continues hp status
    exact stepped_of_upshot sound hs hr h fun _ out he _ =>
      .completed continues hp heard ⟨r, by simp [he], hd⟩
  | openFailed cause =>
    obtain ⟨reply, modified, hp⟩ := opening.mp (first.mpr (.inr rfl))
    obtain ⟨r, hd, h⟩ := applyUpshot_openFailed (t := t) continues hp cause
    exact stepped_of_upshot sound hs hr h fun _ out he _ => .givenUp hp ⟨r, by simp [he], hd⟩
  | sent =>
    exact stepped_of_upshot sound hs hr (applyUpshot_sent continues) fun _ out he _ =>
      .settled continues (opened (by simp)) fun reply free =>
        Slot.answers_of_sendAnswer (he.trans (List.append_nil _).symm) fun _ _ => rfl
  | sendFailed =>
    exact stepped_of_upshot sound hs hr (applyUpshot_sendFailed continues) fun _ out he _ =>
      .sendFailed heard (opened (by simp)) fun reply free =>
        Slot.answers_of_sendAnswer (he.trans (List.append_nil _).symm) fun _ _ => rfl
  | left of status link =>
    have hphase := opened (by rcases of with rfl | rfl <;> simp)
    exact stepped_of_upshot sound hs hr (applyUpshot_lost continues link) fun _ out he _ =>
      .settled continues hphase fun reply free =>
        Slot.answers_of_sendAnswer he fun _ _ => rfl
  | arrived bytes status size => exact worked (.inr (.inl ⟨status, size, rfl⟩)) (by simp) rfl
  | stored bytes => exact worked (.inl rfl) (by simp) rfl
  | came status link => exact worked (.inr (.inr ⟨status, rfl, link⟩)) (by simp) rfl
  | ignored of =>
    apply worked (.inl rfl)
    · rcases of with rfl | rfl <;> simp
    · rcases of with rfl | rfl <;> rfl

theorem stepped_report (sound : t.Sound) (k : UInt8) (g : Nat) (r : Report)
    (first : ∀ s, t.slots.get? k = some s → s.channel.generation = g →
      (s.phase ≠ .opened ↔ r = .ready ∨ r = .openFailed)) :
    t.Stepped (.report k g r) (t.report k g r) := by
  by_cases hcurrent : ∃ s, t.slots.get? k = some s ∧ s.channel.generation = g
  · obtain ⟨s, hs, rfl⟩ := hcurrent
    obtain rfl := (sound.slot k s hs).id
    exact stepped_current sound hs r (first s hs rfl)
  · have hstale : ∀ s, t.slots.get? k = some s → s.channel.generation ≠ g :=
      fun s hs hg => hcurrent ⟨s, hs, hg⟩
    rw [report_stale hstale]
    refine stepped_of_unchanged rfl (Nat.le_refl _) rfl ?_
    intro j s hs
    simp only [TableInput.heard, ite_eq_right_iff]
    rintro ⟨rfl, hg⟩
    exact absurd hg.symm (hstale s hs)

theorem stepped_bearerRetry (sound : t.Sound) (host : Host) (k : UInt8) (g : Nat) :
    t.Stepped (.bearerRetry host k g) (t.bearerRetry host k g) := by
  by_cases hwaits : ∃ s, t.slots.get? k = some s ∧ s.channel.generation = g ∧ s.phase ≠ .opened
  · obtain ⟨s, hs, rfl, hphase⟩ := hwaits
    obtain rfl := (sound.slot k s hs).id
    obtain ⟨reply, modified, hp⟩ := (sound.slot _ s hs).pending.mp hphase
    have h := bearerRetry_progress hs hp host
    obtain ⟨after, effects, orders, honSlot⟩ := h.onSlot
    refine honSlot.stepped (sound.generation _ s hs) ?_ fun _ _ _ => rfl
    rw [hs, ← honSlot.self]
    exact h.slotStep hp rfl
  · have hkept : t.bearerRetry host k g = (t, .none) := by
      refine bearerRetry_of_not_waiting ?_ host
      intro s hs hg hphase
      exact hwaits ⟨s, hs, hg, by simp [hphase]⟩
    rw [hkept]
    exact stepped_of_unchanged rfl (Nat.le_refl _) rfl fun _ _ _ => rfl

theorem stepped_taskEnded (sound : t.Sound) (k : UInt8) (g : Nat) :
    t.Stepped (.taskEnded k g) (t.taskEnded k g, .none) := by
  by_cases hcurrent : ∃ s, t.slots.get? k = some s ∧ s.channel.generation = g
  · obtain ⟨s, hs, rfl⟩ := hcurrent
    obtain rfl := (sound.slot k s hs).id
    obtain ⟨channel, continues, h⟩ := taskEnded_onSlot hs
    refine h.stepped (sound.generation _ s hs) ?_ fun _ _ _ => rfl
    rw [hs]
    refine .worked continues ?_ fun r hr => by cases hr
    simp [h.told_self]
  · rw [taskEnded_stale fun s hs hg => hcurrent ⟨s, hs, hg⟩]
    exact stepped_of_unchanged rfl (Nat.le_refl _) rfl fun _ _ _ => rfl

/-- Calls to the host, and which bearers there are, have no part in a step. -/
theorem Stepped.call {bearers : BearerRegistry}
    (h : Stepped { t with bearers := bearers } input result) (calls : List HostCall) :
    t.Stepped input (result.1, .call calls ++ result.2) :=
  ⟨fun k => (h.slot k).mono (fun _ => rfl) fun _ he => he, h.generation, h.told⟩

/-- Things that are about different channels, dealt with in order, are a step when each is one for
its channel. -/
theorem stepped_each {α : Type} {f : ChannelTable → α → ChannelTable × Output} (key : α → UInt8)
    (Fits : α → Option Slot → Prop) {l : List α}
    (hf : ∀ (t' : ChannelTable) (a : α), Fits a (t'.slots.get? (key a)) →
      ∃ g after effects orders, g ≤ t.generation ∧
        t'.OnSlot (key a) g after effects orders (f t' a) ∧
        SlotStep t.generation t.generation (key a) input (f t' a).2 (t'.slots.get? (key a)) after)
    (hkeys : (l.map key).Nodup) (hl : ∀ a ∈ l, Fits a (t.slots.get? (key a)))
    (unheard : ∀ k g, input.heard k g = none) : t.Stepped input (t.each f l) := by
  have honSlot : ∀ (t' : ChannelTable) (a : α), Fits a (t'.slots.get? (key a)) →
      ∃ g after effects orders, t'.OnSlot (key a) g after effects orders (f t' a) := by
    intro t' a ha
    obtain ⟨g, after, effects, orders, -, h, -⟩ := hf t' a ha
    exact ⟨g, after, effects, orders, h⟩
  have hgen := each_generation honSlot hkeys hl
  refine ⟨?_, Nat.le_of_eq hgen.symm, ?_⟩
  · intro k
    by_cases hk : k ∈ l.map key
    · obtain ⟨a, ha, rfl⟩ := List.mem_map.mp hk
      obtain ⟨t', hget, hslots, htold, heffects⟩ := each_slot honSlot hkeys hl ha
      obtain ⟨g, after, effects, orders, -, h, own⟩ := hf t' a (hget ▸ hl a ha)
      rw [hslots, h.self, ← hget, hgen]
      exact own.mono htold heffects
    · obtain ⟨hslots, htold⟩ := each_other honSlot hkeys hl hk
      rw [hslots]
      exact .same htold fun s _ => unheard k _
  · intro k n hn
    by_cases hk : k ∈ l.map key
    · obtain ⟨a, ha, rfl⟩ := List.mem_map.mp hk
      obtain ⟨t', hget, hslots, htold, heffects⟩ := each_slot honSlot hkeys hl ha
      obtain ⟨g, after, effects, orders, hg, h, -⟩ := hf t' a (hget ▸ hl a ha)
      rw [htold]
      exact h.told_eq_nil (by omega)
    · exact (each_other honSlot hkeys hl hk).2 n

/-- What a change of the connection means for a channel is a step for its slot. -/
theorem slotStep_bearerChange (hs : t.slots.get? s.channel.id = some s)
    (sound : s.Sound s.channel.id) (told : BearerChange) (change : ConnectionChange)
    (last next : Nat) :
    ∃ after effects orders,
      t.OnSlot s.channel.id s.channel.generation after effects orders
        (t.bearerChange s.channel.id told) ∧
      SlotStep last next s.channel.id (.connectionChanged change)
        (t.bearerChange s.channel.id told).2 (some s) after := by
  have kept : ∃ after effects orders,
      t.OnSlot s.channel.id s.channel.generation after effects orders (t, .none) ∧
      SlotStep last next s.channel.id (.connectionChanged change) .none (some s) after :=
    ⟨_, _, _, .unchanged hs, .same (fun _ => rfl) fun _ _ => rfl⟩
  have progress {reply modified result} (hp : s.pending = some (.opening reply modified))
      (h : t.Progress s reply result) : ∃ after effects orders,
      t.OnSlot s.channel.id s.channel.generation after effects orders result ∧
      SlotStep last next s.channel.id (.connectionChanged change) result.2 (some s) after := by
    obtain ⟨after, effects, orders, honSlot⟩ := h.onSlot
    refine ⟨after, effects, orders, honSlot, ?_⟩
    rw [← honSlot.self]
    exact h.slotStep hp rfl
  have waits (h : s.phase = .awaitingBearer) := sound.pending.mp (by simp [h])
  unfold bearerChange
  rw [hs]
  dsimp only
  cases told with
  | ready =>
    dsimp only
    split
    · rename_i h
      obtain ⟨reply, modified, hp⟩ := waits h
      exact progress hp (t.startSocket_progress hp)
    · exact kept
  | failed refusal =>
    dsimp only
    split
    · rename_i h
      obtain ⟨reply, modified, hp⟩ := waits h
      exact progress hp (.givenUp refusal (t.giveUpOpen_onSlot refusal hp))
    · exact kept
  | lost =>
    by_cases hphase : s.phase = .opened
    · obtain ⟨status, hnames, h⟩ := t.bearerLost_opened (s := s) fun reply modified hp =>
        sound.pending.mpr ⟨reply, modified, hp⟩ hphase
      refine ⟨_, _, _, h, .lost rfl hphase ?_ (by simp [h.effects]) hnames⟩
      exact fun reply free =>
        Slot.answers_of_sendAnswer h.effects fun _ _ => rfl
    · obtain ⟨reply, modified, hp⟩ := sound.pending.mp hphase
      obtain ⟨r, hd, h⟩ := t.bearerLost_opening hp
      exact ⟨_, _, _, h, .givenUp hp ⟨r, by simp [h.effects], hd⟩⟩

theorem nodup_changes (c : BearerRegistry) (change : ConnectionChange) :
    ((c.changes change).map (·.1)).Nodup := by
  rw [List.Nodup, List.pairwise_map]
  apply c.requests.ascending.filterMap
  rintro ⟨k, r⟩ ⟨k', r'⟩ hlt e he e' he'
  simp only [Option.map_eq_some_iff] at he he'
  obtain ⟨told, -, rfl⟩ := he
  obtain ⟨told', -, rfl⟩ := he'
  exact UInt8.ne_of_lt hlt

theorem stepped_connectionChanged (sound : t.Sound) (change : ConnectionChange) :
    t.Stepped (.connectionChanged change) (t.connectionChanged change) := by
  let Fits (a : UInt8 × BearerChange) (before : Option Slot) : Prop :=
    ∀ s, before = some s → s.Sound a.1 ∧ s.channel.generation ≤ t.generation
  let rest := { t with bearers := (t.bearers.connectionChanged change).1 }
  have h : rest.Stepped (.connectionChanged change)
      (rest.bearerChanges (t.bearers.changes change)) := by
    refine stepped_each (·.1) Fits ?_ (nodup_changes _ _) ?_ fun _ _ => rfl
    · rintro t' ⟨k, told⟩ hfits
      dsimp only at hfits ⊢
      rcases hs : t'.slots.get? k with _ | s
      · have hnone : t'.bearerChange k told = (t', .none) := by
          simp only [bearerChange, hs]
        rw [hnone]
        exact ⟨0, _, _, _, Nat.zero_le _, .unchanged hs, .unused⟩
      · obtain ⟨hsound, hle⟩ := hfits s hs
        obtain rfl := hsound.id
        obtain ⟨after, effects, orders, honSlot, own⟩ :=
          slotStep_bearerChange hs hsound told change t.generation t.generation
        exact ⟨_, after, effects, orders, hle, honSlot, own⟩
    · exact fun a _ s hs => ⟨sound.slot _ s hs, sound.generation _ s hs⟩
  exact h.call _

theorem nodup_values (sound : t.Sound) : (t.slots.values.map (·.channel.id)).Nodup := by
  have hkeys : t.slots.values.map (·.channel.id) = t.slots.keys := by
    rw [ChannelMap.values, ChannelMap.keys, List.map_map]
    apply List.map_congr_left
    rintro ⟨k, s⟩ hks
    exact (sound.slot k s (ChannelMap.get?_eq_some_iff.mpr hks)).id
  rw [hkeys]
  exact t.slots.nodup_keys

theorem stepped_sessionEnd (sound : t.Sound) : t.Stepped .sessionEnd t.sessionEnd := by
  let Fits (s : Slot) (before : Option Slot) : Prop :=
    before = some s ∧ s.channel.generation ≤ t.generation
  let rest := { t with bearers := t.bearers.dropUnready.1 }
  have h : rest.Stepped .sessionEnd (rest.endSessions rest.slots.values) := by
    refine stepped_each (·.channel.id) Fits ?_ (nodup_values sound) ?_ fun _ _ => rfl
    · rintro t' s ⟨hs, hle⟩
      obtain ⟨after, orders, hafter, honSlot⟩ := t'.endSession_onSlot s
      rw [hs]
      exact ⟨_, after, _, orders, hle, honSlot, .ended rfl hafter⟩
    · intro s hmem
      obtain ⟨k, hs⟩ := ChannelMap.mem_values_iff.mp hmem
      have hid := (sound.slot k s hs).id
      exact ⟨hid ▸ hs, sound.generation k s hs⟩
  exact h.call _

theorem stepped_cardRemoved (sound : t.Sound) : t.Stepped .cardRemoved t.cardRemoved := by
  constructor
  · intro k
    cases t.slots.get? k with
    | none => exact .unused
    | some s => exact .ended rfl (.inl rfl)
  · exact Nat.le_refl _
  · intro k g hg
    rw [Output.told, List.map_eq_nil_iff, List.filter_eq_nil_iff]
    intro o ho hto
    obtain ⟨s, hmem, hos⟩ := List.mem_flatMap.mp ho
    obtain ⟨j, hs⟩ := ChannelMap.mem_values_iff.mp hmem
    obtain ⟨order, -, rfl⟩ := List.mem_map.mp hos
    have hle := sound.generation j s hs
    have hto := (decide_eq_true_iff.mp hto).2
    exact absurd (hto ▸ hle) (Nat.not_le.mpr hg)

/-- Every input is a step, as long as socket tasks report as they should. -/
theorem stepped (sound : t.Sound) (input : TableInput)
    (first : ∀ k s r, t.slots.get? k = some s → input.heard k s.channel.generation = some r →
      (s.phase ≠ .opened ↔ r = .ready ∨ r = .openFailed)) :
    t.Stepped input (t.step input) := by
  cases input with
  | openChannel host reply settings => exact stepped_openChannel host reply settings
  | closeChannel reply k keepListening => exact stepped_closeChannel sound reply k keepListening
  | sendData reply data immediate => exact stepped_sendData sound reply data immediate
  | receiveData reply data => exact stepped_receiveData sound reply data
  | channelStatus reply => exact stepped_respond _ fun _ _ => rfl
  | report k g r =>
    apply stepped_report sound k g r
    rintro s hs rfl
    exact first k s r hs (by simp [TableInput.heard])
  | bearerRetry host k g => exact stepped_bearerRetry sound host k g
  | connectionChanged change => exact stepped_connectionChanged sound change
  | taskEnded k g => exact stepped_taskEnded sound k g
  | sessionEnd => exact stepped_sessionEnd sound
  | cardRemoved => exact stepped_cardRemoved sound

end ChannelTable

end CardChannels
