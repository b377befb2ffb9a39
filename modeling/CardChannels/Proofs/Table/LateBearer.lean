import CardChannels.Proofs.Table.NewChannel

/-!
# Bearers that come late

An open finds its bearer up at once, or it waits: through looks that are put off, for a change of
the connection, or for the one after the other. The main statement compares two continuations of a
run that differ only in this. As soon as the bearer is up they agree about the channel, its phase
and its pending answer, and about everything that the open has been answered; and so they do
afterwards, as long as the same things happen in both.
-/
namespace CardChannels

namespace ChannelTable

/-- Whether an input brings up the bearer that a channel waits for: a look that comes due, or a
change of the connection. -/
def BringsUp (t : ChannelTable) (k : UInt8) (g : Nat) : TableInput → Prop
  | .bearerRetry host j n => j = k ∧ n = g ∧ (t.bearers.retry host k).2.1 = some .ready
  | .connectionChanged change => t.bearers.changeOf change k = some .ready
  | _ => False

end ChannelTable

/-- The responses to the open that made the channel of a number, from inputs that come after some
others. Of both kinds of inputs the newest is the first. -/
def openAnswers (config : Config) (before : List TableInput) (k : UInt8) :
    List TableInput → List TerminalResponse
  | [] => []
  | input :: earlier =>
    openAnswers config before k earlier ++
      ((replay config (earlier ++ before)).2.openEffects k input).filterMap Effect.response?

/-- Two continuations of a run that lead to the same for the channel of a number: to the same slot,
and to the same answers to its open. -/
structure SameOpen (config : Config) (before : List TableInput) (k : UInt8)
    (a b : List TableInput) : Prop where
  slot : (replay config (a ++ before)).2.slots.get? k =
    (replay config (b ++ before)).2.slots.get? k
  answers : openAnswers config before k a = openAnswers config before k b

/-! Steps -/

namespace ChannelTable

variable {t t' : ChannelTable} {k : UInt8} {s : Slot}

/-- The bearer of a new channel comes up, and its socket task is started as it would have been at
once. -/
theorem view_bringsUp {v₀ : ChannelView} {r : BearerRequest} {last : TableInput}
    (keyed : t.Keyed) (new : v₀.IsNew s r (t.view k)) (phase : s.phase = .awaitingBearer)
    (owed : s.owesOpen = true) (ready : t.BringsUp k s.channel.generation last) :
    (t.step last).1.view k = { v₀ with request := some r }.started s ∧
      t.openEffects k last = s.startedTold v₀.connectTimeout := by
  obtain ⟨ended, r', hview, rfl⟩ := new
  have hs : t.slots.get? k = some (s.withEnded ended) := congrArg ChannelView.slot hview
  have hr : t.bearers.requests.get? k = some r' := congrArg ChannelView.request hview
  have htimeout : t.connectTimeout = v₀.connectTimeout :=
    congrArg ChannelView.connectTimeout hview
  have owes : t.owesOpen k = true := by
    rw [owesOpen, hs]
    exact owed
  have started (request : Option BearerRequest) :
      { t.view k with request := request }.started (s.withEnded ended) =
        { v₀ with request := request }.started s := by
    rw [hview, ChannelView.started_withEnded]
    exact ChannelView.started_of_slot { v₀ with request := request } _ s
  cases last with
  | bearerRetry host j n =>
    obtain ⟨rfl, rfl, ready⟩ := ready
    rw [BearerRegistry.retry, hr] at ready
    rcases t.bearerRetry_cases host j s.channel.generation with ⟨-, unlooked⟩ |
      ⟨s', r'', hs', -, -, hr', he, looked⟩
    · -- Nothing would have come of the look.
      have idle := unlooked _ hs rfl phase
      rw [BearerRegistry.isLooking, hr, Option.any_some, Bool.not_eq_false'] at idle
      simp [idle] at ready
    · cases hs.symm.trans hs'
      cases hr.symm.trans hr'
      have answer : (t.bearers.check host j r').2.1 = .ready := by simpa [he] using ready
      have hup := congrArg BearerAnswer.upAfter answer
      obtain ⟨q, hq, hup, hfor⟩ := BearerRegistry.get?_check hr he host hup
      rw [BearerRequest.broughtUp_of_isUp hup] at hfor
      have hid : j = (s.withEnded ended).channel.id := (keyed j _ hs).symm
      refine ⟨?_, ?_⟩
      · rw [step, looked]
        refine (view_afterBearer ..).trans ?_
        rw [if_pos hid, view_of_forget_eq (t.bearers.forget_check host j r'), if_pos rfl, hq, hfor,
          answer]
        exact started _
      · rw [openEffects, if_pos ⟨rfl, owes⟩, step, looked, Output.effects_append,
          Output.effects_call, List.nil_append, effects_afterBearer, answer]
        rw [← htimeout]
        exact Slot.startedTold_withEnded s ended t.connectTimeout
  | connectionChanged change =>
    have ready : (t.view k).changeOf change = some .ready := ready
    have waits : (s.withEnded ended).phase = .awaitingBearer := phase
    have hslot : (t.view k).slot = some (s.withEnded ended) := hs
    refine ⟨?_, ?_⟩
    · rw [step, view_connectionChanged keyed, ChannelView.connectionChanged,
        ChannelView.requestAfter, ready]
      simp only [Option.elim_some, ChannelView.afterChange, hslot, if_pos waits]
      rw [← hslot]
      have hrequest : (t.view k).request = some r' := hr
      rw [hrequest]
      exact started _
    · rw [openEffects, if_pos owes, changeEffects_eq, ChannelView.connectionTold, ready]
      simp only [Option.elim_some, ChannelView.changeTold, hslot, if_pos waits]
      rw [Slot.startedTold_withEnded, ← htimeout]
      rfl
  | _ => exact ready.elim

/-- What an input does to a channel, and gives out for its open, is told by what the table has of
the channel, unless it may make a channel or ends the session. -/
theorem view_step_congr {input : TableInput} (keyed : t.Keyed) (keyed' : t'.Keyed)
    (same : t'.view k = t.view k)
    (unopened : input.isOpen = false) (goesOn : input.endsSession = false) :
    (t'.step input).1.view k = (t.step input).1.view k ∧
      t'.openEffects k input = t.openEffects k input := by
  have owes : t'.owesOpen k = t.owesOpen k := by
    have hslot : t'.slots.get? k = t.slots.get? k := congrArg ChannelView.slot same
    rw [owesOpen, owesOpen, hslot]
  have aboutOne {j : UInt8} (hj : input.subject? = some j) :
      (t'.step input).1.view k = (t.step input).1.view k ∧
        (k = j → (t'.step input).2.effects = (t.step input).2.effects) := by
    by_cases hk : k = j
    · subst hk
      obtain ⟨hview, heffects⟩ := actsOn_congr (actsOn_step hj (keyed k)) same
      exact ⟨hview, fun _ => heffects⟩
    · have hview := view_actsOn_of_ne (actsOn_step hj (keyed j)) hk
      have hview' := view_actsOn_of_ne (actsOn_step hj (keyed' j)) hk
      exact ⟨hview'.trans (same.trans hview.symm), fun h => absurd h hk⟩
  cases input with
  | openChannel => cases unopened
  | closeChannel | sendData | receiveData | taskEnded => exact ⟨(aboutOne rfl).1, rfl⟩
  | channelStatus reply => exact ⟨same, rfl⟩
  | report j n q =>
    obtain ⟨hview, heffects⟩ := aboutOne rfl
    refine ⟨hview, ?_⟩
    rw [openEffects, openEffects, owes]
    split
    · rename_i hj
      exact heffects hj.1.symm
    · rfl
  | bearerRetry host j n =>
    by_cases hk : k = j
    · subst hk
      obtain ⟨hview, heffects⟩ := bearerRetry_congr keyed same host n
      refine ⟨hview, ?_⟩
      rw [openEffects, openEffects, owes, step, step, heffects]
    · have hview := view_bearerRetry_of_ne keyed host n hk
      have hview' := view_bearerRetry_of_ne keyed' host n hk
      refine ⟨hview'.trans (same.trans hview.symm), ?_⟩
      rw [openEffects, openEffects, if_neg (by simp [Ne.symm hk]), if_neg (by simp [Ne.symm hk])]
  | connectionChanged change =>
    refine ⟨?_, ?_⟩
    · rw [step, step, view_connectionChanged keyed', view_connectionChanged keyed, same]
    · rw [openEffects, openEffects, owes, changeEffects_eq, changeEffects_eq, same]
  | sessionEnd | cardRemoved => cases goesOn

end ChannelTable

/-! Runs -/

variable {config : Config} {before later after : List TableInput} {k : UInt8} {g : Nat}
  {host hostUp : Host} {reply : Reply} {settings : ChannelSettings} {last : TableInput}

theorem mem_made_append {x : UInt8 × Nat} (h : x ∈ made config before)
    (later : List TableInput) : x ∈ made config (later ++ before) := by
  induction later with
  | nil => exact h
  | cons input later ih => exact List.mem_append_right _ ih

theorem Admissible.of_append (h : Admissible config (later ++ before)) :
    Admissible config before := by
  induction later with
  | nil => exact h
  | cons input later ih => exact ih h.2

/-- A channel that waits throughout stays new, and its open is not answered meanwhile. -/
theorem isNew_replay
    (made : (replay config before).2.made? (.openChannel host reply settings) = some (k, g))
    (admissible : Admissible config (later ++ .openChannel host reply settings :: before))
    (waits : (replay config
      (later ++ .openChannel host reply settings :: before)).2.Waits k g) :
    let t := (replay config before).2
    settings.bearer.isSome = true ∧
      (t.view k).IsNew (t.newSlot k reply settings) (t.bearers.target settings)
        ((replay config (later ++ .openChannel host reply settings :: before)).2.view k) ∧
      openAnswers config before k (later ++ [.openChannel host reply settings]) = [] := by
  intro t
  obtain ⟨size, hfree, hg⟩ := ChannelTable.made?_openChannel_iff.mp made
  induction later with
  | nil =>
    have fresh := admissible.2.run.tracks.requests k (ChannelTable.get?_of_firstFree? hfree)
    obtain ⟨needs, new, quiet⟩ := ChannelTable.isNew_openChannel fresh size hfree host waits
    refine ⟨needs, new, ?_⟩
    rw [List.nil_append, openAnswers, openAnswers, List.nil_append, List.nil_append,
      ChannelTable.openEffects_of_made made]
    exact quiet
  | cons input later ih =>
    have tracks := admissible.2.run.tracks
    obtain ⟨s', hs', hg', waits'⟩ := id waits
    have mem : (k, g) ∈ CardChannels.made config
        (later ++ .openChannel host reply settings :: before) :=
      mem_made_append (List.mem_append_left _ (by rw [made]; simp)) later
    have known := (made_descending config _).1 _ mem
    have waited : (replay config
        (later ++ .openChannel host reply settings :: before)).2.Waits k g := by
      rcases tracks.new_or_kept admissible.1 hs' with ⟨s, hs, generation, waited⟩ | ⟨-, newer, -⟩
      · exact ⟨s, hs, generation.symm.trans hg', (waited waits').1⟩
      · rw [hg'] at newer
        exact absurd known (Nat.not_le.mpr newer)
    obtain ⟨needs, new, unanswered⟩ := ih admissible.2 waited
    obtain ⟨new', quiet⟩ := tracks.isNew_step admissible.1 (by rw [hg]; rfl) rfl new waits
    refine ⟨needs, new', ?_⟩
    rw [List.cons_append, openAnswers, unanswered, List.append_assoc]
    exact quiet

/-- Two continuations that agree about a channel go on to agree, as long as the same happens in
both. -/
theorem sameOpen_append {a b : List TableInput}
    (view : (replay config (a ++ before)).2.view k = (replay config (b ++ before)).2.view k)
    (answers : openAnswers config before k a = openAnswers config before k b)
    (goesOn : ∀ input ∈ after, input.isOpen = false ∧ input.endsSession = false) :
    SameOpen config before k (after ++ a) (after ++ b) := by
  suffices h : (replay config (after ++ a ++ before)).2.view k =
      (replay config (after ++ b ++ before)).2.view k ∧
      openAnswers config before k (after ++ a) = openAnswers config before k (after ++ b) from
    ⟨congrArg ChannelView.slot h.1, h.2⟩
  induction after with
  | nil => exact ⟨view, answers⟩
  | cons input after ih =>
    obtain ⟨⟨unopened, continues⟩, goesOn⟩ := List.forall_mem_cons.mp goesOn
    obtain ⟨view, answers⟩ := ih goesOn
    obtain ⟨view', effects⟩ := ChannelTable.view_step_congr (among_replay config _).keyed
      (among_replay config _).keyed view unopened continues
    refine ⟨view', ?_⟩
    rw [List.cons_append, List.cons_append, openAnswers, openAnswers, answers, effects]

/-- Waiting for the bearer does not change what comes of an open. Two continuations of a run are
compared: in one a host has the bearer up at once; in the other the channel of the same open waits,
whatever happens in the meantime, until a look or a change of the connection brings its bearer up.
Then the channel has the same slot in both, or none in both, and the open has got the same answers;
and the same inputs keep it so, as long as they neither open a channel nor end the session. -/
theorem wait_changes_nothing
    (made : (replay config before).2.made? (.openChannel host reply settings) = some (k, g))
    (up : ((replay config before).2.bearers.ask hostUp k settings).2.1 = .ready)
    (admissible : Admissible config (later ++ .openChannel host reply settings :: before))
    (waits : (replay config
      (later ++ .openChannel host reply settings :: before)).2.Waits k g)
    (ready : (replay config
      (later ++ .openChannel host reply settings :: before)).2.BringsUp k g last)
    (goesOn : ∀ input ∈ after, input.isOpen = false ∧ input.endsSession = false) :
    SameOpen config before k
      (after ++ last :: (later ++ [.openChannel host reply settings]))
      (after ++ [.openChannel hostUp reply settings]) := by
  let t := (replay config before).2
  let s := t.newSlot k reply settings
  obtain ⟨needs, new, unanswered⟩ := isNew_replay made admissible waits
  obtain ⟨size, hfree, rfl⟩ := ChannelTable.made?_openChannel_iff.mp made
  have prompt : t.made? (.openChannel hostUp reply settings) = some (k, t.generation + 1) :=
    ChannelTable.made?_openChannel_iff.mpr ⟨size, hfree, rfl⟩
  have run : TableRun config (replay config before).1 t := admissible.of_append.2.run
  have fresh := run.tracks.requests k (ChannelTable.get?_of_firstFree? hfree)
  -- The bearer that is up at once is the one that comes up late.
  obtain ⟨r, hr, hup, htarget⟩ :=
    BearerRegistry.get?_ask fresh needs hostUp (congrArg BearerAnswer.upAfter up)
  rw [BearerRequest.broughtUp_of_isUp hup] at htarget
  obtain ⟨lateView, lateEffects⟩ :=
    ChannelTable.view_bringsUp (among_replay config _).keyed new rfl rfl ready
  have promptView : (t.openChannel hostUp reply settings).1.view k =
      { t.view k with request := some (t.bearers.target settings) }.started s := by
    rw [ChannelTable.view_openChannel size hfree, if_pos rfl, up, hr, htarget]
    exact ChannelView.started_of_slot
      { t.view k with request := some (t.bearers.target settings) } (some s) s
  have promptEffects : (t.openChannel hostUp reply settings).2.effects =
      s.startedTold t.connectTimeout := by
    rw [ChannelTable.effects_openChannel size hfree, up]
    rfl
  have delayed : last :: (later ++ [.openChannel host reply settings]) ++ before =
      last :: (later ++ .openChannel host reply settings :: before) := by simp
  refine sameOpen_append ?_ ?_ goesOn
  · rw [delayed]
    exact lateView.trans promptView.symm
  · have effects := (ChannelTable.openEffects_of_made prompt).trans promptEffects
    rw [openAnswers, unanswered, openAnswers, openAnswers, List.append_assoc]
    exact congrArg (List.filterMap Effect.response? ·) (lateEffects.trans effects.symm)

/-- An open over an access point that asks for a larger buffer than there is. -/
def greedyOpen (host : SteadyHost) : TableInput :=
  .openChannel host.answers (.toCommand 1 .openChannel 0)
    { ChannelSettings.loopback with
      bearer := some packetBearer, accessName := some "bip.example", bufferSize := 0xFFFF }

/-- A look finds the access point, and its type is coming up. -/
def slowly : List TableInput :=
  [.bearerRetry { SteadyHost.connected with enable := .requestStarted }.answers 1 1,
    .channelStatus (.toCommand 2 .getChannelStatus 0)]

/-- The type of access points for channels has come up. -/
def channelTypeUp : TableInput := .connectionChanged ⟨"bip", .connected, false⟩

/-- An open that has waited for a look and for a change of the connection is answered like one whose
bearer was up at once: with the size that it got instead of the one that it asked for. -/
theorem greedyOpen_unchanged :
    SameOpen .standard [] 1
        ([.report 1 1 .ready] ++ channelTypeUp :: (slowly ++ [greedyOpen .secretive]))
        ([.report 1 1 .ready] ++ [greedyOpen .connected]) ∧
      openAnswers .standard [] 1 ([.report 1 1 .ready] ++ [greedyOpen .connected]) =
        [(Reply.toCommand 1 .openChannel 0).success .modified
          (some (.openChannel (some (.plain 1 .established)) (some packetBearer) 1500))] := by
  let waiting := (replay .standard (slowly ++ greedyOpen .secretive :: [])).2
  have made : (replay .standard []).2.made? (greedyOpen .secretive) = some (1, 1) := by
    decide +kernel
  have up : ((replay .standard []).2.bearers.ask SteadyHost.connected.answers 1
      { ChannelSettings.loopback with
        bearer := some packetBearer, accessName := some "bip.example",
        bufferSize := 0xFFFF }).2.1 = .ready := by decide +kernel
  have admissible : Admissible .standard (slowly ++ greedyOpen .secretive :: []) := by
    decide +kernel
  have slot : (waiting.slots.get? 1).map (fun s => (s.channel.generation, s.phase)) =
      some (1, .awaitingBearer) := by decide +kernel
  have waits : waiting.Waits 1 1 := by
    obtain ⟨s, hs, heq⟩ := Option.map_eq_some_iff.mp slot
    obtain ⟨generation, phase⟩ := Prod.mk.inj heq
    exact ⟨s, hs, generation, phase⟩
  have told : waiting.bearers.changeOf ⟨"bip", .connected, false⟩ 1 = some .ready := by
    decide +kernel
  have ready : waiting.BringsUp 1 1 channelTypeUp := told
  have goesOn : ∀ input ∈ ([.report 1 1 .ready] : List TableInput),
      input.isOpen = false ∧ input.endsSession = false := by
    simp [TableInput.isOpen, TableInput.endsSession]
  exact ⟨wait_changes_nothing made up admissible waits ready goesOn, by decide +kernel⟩

end CardChannels
