/-
# Stream.TcpIsolation -- TCP clients do not interfere

Three invariants of the loop.  `Indexed`: as far as the loop has still to go, the clients
are those of the snapshot, entry by entry; an erasure is behind it, an acceptance after
it.  `Descriptors`: every client holds a descriptor of its own, open, of a connection of
its own.  `Streams`: the extractor of a client is a fresh one that was fed what was
received on its connection, and the callback has got, or is about to get, what that
extractor returned.
-/
import Stgs.Stream.TcpServer

namespace Stgs.Stream

open Stgs.Theory.Transition Stgs.Wire

set_option autoImplicit false

/-! ## The index -/

/-- How far the loop has still to go in its snapshot. -/
def TcpPc.reach : TcpPc → Option Nat
  | visiting snapshotIndex => some snapshotIndex
  | receiving clientIndex _ => some (clientIndex + 1)
  | delivering clientIndex _ => some (clientIndex + 1)
  | leaving clientIndex _ => some (clientIndex + 1)
  | _ => none

/-- Up to there clients and snapshot agree. -/
def Agrees (clients : List TcpClient) (pfds : List PollFd) (reach : Nat) : Prop :=
  ∀ index < reach, ∃ client entry, clients[index]? = some client ∧
    pfds[index + 1]? = some entry ∧ client.fd = entry.fd

def Indexed (state : TcpState) : Prop :=
  ∀ reach, state.pc.reach = some reach → Agrees state.clients state.pfds reach

theorem Agrees.mono {clients : List TcpClient} {pfds : List PollFd} {reach less : Nat}
    (agrees : Agrees clients pfds reach) (le : less ≤ reach) : Agrees clients pfds less :=
  fun index below => agrees index (Nat.lt_of_lt_of_le below le)

/-- What poll answers is about the clients. -/
theorem agrees_polled {serverFd : Int} {clients : List TcpClient} {pfds : List PollFd}
    (answered : pfds.map PollFd.fd = (snapshot serverFd clients).map PollFd.fd) :
    Agrees clients pfds clients.length := by
  intro index below
  have entries : (pfds.map PollFd.fd)[index + 1]? = some clients[index].fd := by
    rw [answered]
    simp [snapshot, below]
  rw [List.getElem?_map, Option.map_eq_some_iff] at entries
  obtain ⟨entry, polled, same⟩ := entries
  exact ⟨clients[index], entry, List.getElem?_eq_getElem below, polled, same.symm⟩

/-- An erasure at the reach is behind it. -/
theorem Agrees.erase {clients : List TcpClient} {pfds : List PollFd} {reach : Nat}
    (agrees : Agrees clients pfds (reach + 1)) : Agrees (eraseAt clients reach).1 pfds reach := by
  intro index below
  obtain ⟨erased, _, there, _, _⟩ := agrees reach (Nat.lt_succ_self reach)
  obtain ⟨client, entry, here, polled, same⟩ := agrees index (Nat.lt_succ_of_lt below)
  refine ⟨client, entry, ?_, polled, same⟩
  rw [eraseAt_eq there, List.getElem?_eraseIdx_of_lt below]
  exact here

/-- Only the extractor changes. -/
theorem Agrees.feed {clients : List TcpClient} {pfds : List PollFd} {reach changed : Nat}
    {client : TcpClient} (agrees : Agrees clients pfds reach)
    (there : clients[changed]? = some client) (extractor : StreamFrameExtractor) :
    Agrees (clients.set changed { client with extractor }) pfds reach := by
  intro index below
  obtain ⟨other, entry, here, polled, same⟩ := agrees index below
  by_cases this : index = changed
  · subst this
    obtain rfl := Option.some.inj (there.symm.trans here)
    refine ⟨{ client with extractor }, entry, ?_, polled, same⟩
    rw [List.getElem?_set_self (List.getElem?_eq_some_iff.mp there).1]
  · refine ⟨other, entry, ?_, polled, same⟩
    rw [List.getElem?_set_ne (Ne.symm this)]
    exact here

theorem indexed_step {serverFd : Int} {state next : TcpState} (indexed : Indexed state)
    (step : TcpStep serverFd state next) : Indexed next := by
  have keep {clients : List TcpClient} {pc : TcpPc} {reach : Nat} (same : pc.reach = some reach)
      (agrees : Agrees clients state.pfds reach) :
      ∀ other, pc.reach = some other → Agrees clients state.pfds other := by
    intro other reaches
    obtain rfl := Option.some.inj (same.symm.trans reaches)
    exact agrees
  cases step with
  | sends connection bytes isOpen => exact indexed
  | shutsDown connection => exact indexed
  | interrupts receiving => exact indexed
  | acceptInterrupts accepting => exact indexed
  | idles polling => exact fun reach reaches => by simp [polling, TcpPc.reach] at reaches
  | polls polling answered =>
      intro reach reaches
      obtain rfl : state.clients.length = reach := Option.some.inj reaches
      exact agrees_polled answered
  | @skips index entry visiting polled quiet =>
      exact keep rfl ((indexed (index + 1) (by rw [visiting]; rfl)).mono (Nat.le_succ index))
  | @drains index entry client visiting polled there readable =>
      exact keep rfl (indexed (index + 1) (by rw [visiting]; rfl))
  | @passes index entry client visiting polled there ready unreadable =>
      exact keep rfl (indexed (index + 1) (by rw [visiting]; rfl))
  | @receives index remove client connection bytes receiving there live some fits next =>
      exact keep rfl ((indexed (index + 1) (by rw [receiving]; rfl)).feed there _)
  | @wouldBlock index remove receiving =>
      exact keep rfl (indexed (index + 1) (by rw [receiving]; rfl))
  | @recvFails index remove receiving =>
      exact keep rfl (indexed (index + 1) (by rw [receiving]; rfl))
  | @ends index remove client connection receiving there live finished whole =>
      exact keep rfl (indexed (index + 1) (by rw [receiving]; rfl))
  | gives delivering next => exact indexed
  | @delivers index remove delivering none =>
      exact keep rfl (indexed (index + 1) (by rw [delivering]; rfl))
  | @keeps index remove entry leaving polled stays =>
      exact keep rfl ((indexed (index + 1) (by rw [leaving]; rfl)).mono (Nat.le_succ index))
  | @removes index remove entry leaving polled goes =>
      exact keep rfl (indexed (index + 1) (by rw [leaving]; rfl)).erase
  | @visited entry visiting polled =>
      intro reach reaches
      cases ready : entry.revents.pollIn <;> simp [ready, TcpPc.reach] at reaches
  | accepts grows accepting valid fresh =>
      exact fun reach reaches => by simp [accepting, TcpPc.reach] at reaches
  | _ => exact fun reach reaches => by cases reaches

/-! ## The descriptors -/

structure Descriptors (clients : List TcpClient) (live : Int → Option Connection)
    (accepted : Nat) : Prop where
  owned : ∀ client ∈ clients, 0 ≤ client.fd ∧ ∃ connection, live client.fd = some connection
  distinct : (clients.map TcpClient.fd).Nodup
  injective : ∀ first second connection, live first = some connection →
    live second = some connection → first = second
  numbered : ∀ fd connection, live fd = some connection → connection < accepted

theorem closed_some {live : Int → Option Connection} {fds : List Int} {fd : Int}
    {connection : Connection} (isOpen : closed live fds fd = some connection) :
    fd ∉ fds ∧ live fd = some connection := by
  unfold closed at isOpen
  split at isOpen
  · cases isOpen
  · rename_i other
    exact ⟨other, isOpen⟩

/-- Descriptors tell clients apart. -/
theorem index_of_fd {clients : List TcpClient} {first second : Nat} {client other : TcpClient}
    (distinct : (clients.map TcpClient.fd).Nodup) (there : clients[first]? = some client)
    (here : clients[second]? = some other) (same : client.fd = other.fd) : first = second := by
  have below : first < (clients.map TcpClient.fd).length := by
    rw [List.length_map]
    exact (List.getElem?_eq_some_iff.mp there).1
  refine (List.getElem?_inj below distinct).mp ?_
  rw [List.getElem?_map, List.getElem?_map, there, here]
  exact congrArg some same

/-- A client that stays has another descriptor than the one that goes. -/
theorem ne_of_mem_eraseIdx {clients : List TcpClient} {index : Nat} {client other : TcpClient}
    (distinct : (clients.map TcpClient.fd).Nodup) (there : clients[index]? = some client)
    (stays : other ∈ clients.eraseIdx index) : other.fd ≠ client.fd := by
  obtain ⟨place, apart, here⟩ := List.mem_eraseIdx_iff_getElem?.mp stays
  exact fun same => apart (index_of_fd distinct here there same)

/-- The clients after one was fed: that one, and others with other descriptors. -/
theorem mem_feed {clients : List TcpClient} {index : Nat} {client other : TcpClient}
    {extractor : StreamFrameExtractor} (distinct : (clients.map TcpClient.fd).Nodup)
    (there : clients[index]? = some client)
    (member : other ∈ clients.set index { client with extractor }) :
    other = { client with extractor } ∨ (other ∈ clients ∧ other.fd ≠ client.fd) := by
  obtain ⟨place, here⟩ := List.mem_iff_getElem?.mp member
  by_cases this : place = index
  · subst this
    rw [List.getElem?_set_self (List.getElem?_eq_some_iff.mp there).1] at here
    exact Or.inl (Option.some.inj here).symm
  · rw [List.getElem?_set_ne (Ne.symm this)] at here
    exact Or.inr ⟨List.mem_of_getElem? here, fun same => this (index_of_fd distinct here there same)⟩

/-- Feeding changes no descriptor. -/
theorem map_fd_feed {clients : List TcpClient} {index : Nat} {client : TcpClient}
    (there : clients[index]? = some client) (extractor : StreamFrameExtractor) :
    (clients.set index { client with extractor }).map TcpClient.fd = clients.map TcpClient.fd := by
  obtain ⟨below, rfl⟩ := List.getElem?_eq_some_iff.mp there
  rw [List.map_set]
  refine List.ext_getElem? fun place => ?_
  by_cases this : index = place
  · subst this
    simp [below]
  · rw [List.getElem?_set_ne this]

namespace Descriptors

variable {clients : List TcpClient} {live : Int → Option Connection} {accepted : Nat}

/-- Every client is destroyed. -/
theorem leave (descriptors : Descriptors clients live accepted) (fds : List Int) {later : Nat}
    (more : accepted ≤ later) : Descriptors [] (closed live fds) later where
  owned _ member := by cases member
  distinct := List.nodup_nil
  injective first second connection isOpen isOpen' :=
    descriptors.injective first second connection (closed_some isOpen).2 (closed_some isOpen').2
  numbered fd connection isOpen :=
    Nat.lt_of_lt_of_le (descriptors.numbered fd connection (closed_some isOpen).2) more

theorem feed (descriptors : Descriptors clients live accepted) {index : Nat} {client : TcpClient}
    (there : clients[index]? = some client) (extractor : StreamFrameExtractor) :
    Descriptors (clients.set index { client with extractor }) live accepted := by
  refine ⟨fun other inside => ?_, ?_, descriptors.injective, descriptors.numbered⟩
  · rcases mem_feed descriptors.distinct there inside with rfl | ⟨before, _⟩
    · exact descriptors.owned client (List.mem_of_getElem? there)
    · exact descriptors.owned other before
  · rw [map_fd_feed there]
    exact descriptors.distinct

theorem erase (descriptors : Descriptors clients live accepted) {index : Nat} {client : TcpClient}
    (there : clients[index]? = some client) :
    Descriptors (eraseAt clients index).1 (closed live (eraseAt clients index).2) accepted := by
  rw [eraseAt_eq there]
  refine ⟨fun other stays => ?_, ?_, fun first second connection isOpen isOpen' => ?_,
    fun fd connection isOpen => ?_⟩
  · obtain ⟨valid, connection, isOpen⟩ := descriptors.owned other (List.mem_of_mem_eraseIdx stays)
    have apart := ne_of_mem_eraseIdx descriptors.distinct there stays
    have kept : other.fd ∉ closeFd client.fd := by
      unfold closeFd
      split <;> simp [apart]
    exact ⟨valid, connection, (if_neg kept).trans isOpen⟩
  · exact descriptors.distinct.sublist ((List.eraseIdx_sublist _ _).map _)
  · exact descriptors.injective first second connection (closed_some isOpen).2
      (closed_some isOpen').2
  · exact descriptors.numbered fd connection (closed_some isOpen).2

/-- A new descriptor is none of the clients'. -/
theorem fresh_fd (descriptors : Descriptors clients live accepted) {fd : Int}
    (fresh : live fd = none) {client : TcpClient} (member : client ∈ clients) : client.fd ≠ fd := by
  rintro rfl
  obtain ⟨_, connection, isOpen⟩ := descriptors.owned client member
  rw [fresh] at isOpen
  cases isOpen

theorem accept (descriptors : Descriptors clients live accepted) {fd : Int} (valid : 0 ≤ fd)
    (fresh : live fd = none) (grows : Bool) :
    Descriptors (emplaceBack clients fd grows) (Function.update live fd (some accepted))
      (accepted + 1) := by
  -- the new connection has a number of its own
  have old {place : Int} {connection : Connection} (elsewhere : place ≠ fd)
      (isOpen : Function.update live fd (some accepted) place = some connection) :
      live place = some connection := (Function.update_of_ne elsewhere ..).symm.trans isOpen
  have new {connection : Connection}
      (isOpen : Function.update live fd (some accepted) fd = some connection) :
      accepted = connection := by
    rw [Function.update_self] at isOpen
    exact Option.some.inj isOpen
  rw [emplaceBack_eq]
  refine ⟨fun client member => ?_, ?_, fun first second connection isOpen isOpen' => ?_,
    fun other connection isOpen => ?_⟩
  · rcases List.mem_append.mp member with before | added
    · obtain ⟨valid, connection, isOpen⟩ := descriptors.owned client before
      have apart := descriptors.fresh_fd fresh before
      exact ⟨valid, connection, (Function.update_of_ne apart ..).trans isOpen⟩
    · obtain rfl := List.mem_singleton.mp added
      exact ⟨valid, accepted, Function.update_self ..⟩
  · rw [List.map_append, List.nodup_append]
    refine ⟨descriptors.distinct, List.nodup_cons.mpr ⟨List.not_mem_nil, List.nodup_nil⟩,
      fun other before place added same => ?_⟩
    obtain ⟨client, member, rfl⟩ := List.mem_map.mp before
    obtain rfl := List.mem_singleton.mp added
    exact descriptors.fresh_fd fresh member same
  · by_cases this : first = fd
    · by_cases that : second = fd
      · rw [this, that]
      · have before := descriptors.numbered second connection (old that isOpen')
        subst this
        exact absurd (new isOpen) (Nat.ne_of_gt before)
    · by_cases that : second = fd
      · have before := descriptors.numbered first connection (old this isOpen)
        subst that
        exact absurd (new isOpen') (Nat.ne_of_gt before)
      · exact descriptors.injective first second connection (old this isOpen) (old that isOpen')
  · by_cases this : other = fd
    · subst this
      rw [← new isOpen]
      exact Nat.lt_succ_self accepted
    · exact Nat.lt_succ_of_lt (descriptors.numbered other connection (old this isOpen))

end Descriptors

theorem descriptors_step {serverFd : Int} {state next : TcpState} (indexed : Indexed state)
    (descriptors : Descriptors state.clients state.live state.accepted)
    (step : TcpStep serverFd state next) : Descriptors next.clients next.live next.accepted := by
  cases step with
  | stops polling => exact descriptors.leave _ (Nat.le_refl _)
  | pollFails polling => exact descriptors.leave _ (Nat.le_refl _)
  | callbackThrows delivering next => exact descriptors.leave _ (Nat.le_refl _)
  | setNonBlockingFails accepting => exact descriptors.leave _ (Nat.le_succ _)
  | receives receiving there live some fits next => exact descriptors.feed there _
  | @removes index remove entry leaving polled goes =>
      obtain ⟨erased, _, there, _, _⟩ :=
        indexed (index + 1) (by rw [leaving]; rfl) index (Nat.lt_succ_self index)
      exact descriptors.erase there
  | accepts grows accepting valid fresh => exact descriptors.accept valid fresh grows
  | _ => exact descriptors

/-! ## The streams -/

/-- The candidates of one connection, in order. -/
def ofConnection (connection : Connection) (frames : List (Connection × ByteVector)) :
    List ByteVector :=
  (frames.filter fun frame => frame.1 = connection).map Prod.snd

/-- What a fresh extractor makes of some bytes. -/
def freshFeed (bytes : ByteVector) : List ByteVector × StreamFrameExtractor :=
  StreamFrameExtractor.feed {} bytes

theorem ofConnection_append (connection : Connection)
    (first second : List (Connection × ByteVector)) :
    ofConnection connection (first ++ second) =
      ofConnection connection first ++ ofConnection connection second := by
  simp [ofConnection]

/-- Candidates marked with their connection. -/
theorem ofConnection_marked (connection : Connection) (frames : List ByteVector) :
    ofConnection connection (frames.map fun frame => (connection, frame)) = frames := by
  simp [ofConnection, List.filter_map, Function.comp_def]

theorem ofConnection_others {connection other : Connection} (apart : other ≠ connection)
    (frames : List ByteVector) :
    ofConnection other (frames.map fun frame => (connection, frame)) = [] := by
  simp [ofConnection, List.filter_map, Function.comp_def, Ne.symm apart]

/-- Feeding goes on where it stopped. -/
theorem freshFeed_append (first second : ByteVector) :
    freshFeed (first ++ second) =
      ((freshFeed first).1 ++ ((freshFeed first).2.feed second).1,
        ((freshFeed first).2.feed second).2) := by
  have cut : [first, second].flatten = first ++ second := by simp
  rw [freshFeed, ← cut, ← StreamFrameExtractor.feedAll_flatten .fresh]
  simp only [StreamFrameExtractor.feedAll, List.append_nil]
  rfl

theorem freshFeed_nil : freshFeed [] = ([], {}) :=
  (StreamFrameExtractor.feedAll_flatten .fresh []).symm

structure Streams (state : TcpState) : Prop where
  fed : ∀ client ∈ state.clients, ∀ connection, state.live client.fd = some connection →
    client.extractor = (freshFeed (state.received connection)).2
  quiet : ∀ connection, state.accepted ≤ connection → state.received connection = []
  arrived : ∀ connection, state.received connection <+: state.sent connection
  delivered : ∀ connection,
    ofConnection connection state.given ++ ofConnection connection state.frames =
      (freshFeed (state.received connection)).1
  ended : ∀ connection, state.ended connection = true → state.finished connection = true ∧
    state.received connection = state.sent connection ∧ ofConnection connection state.frames = []
  idle : state.frames ≠ [] → (∃ index remove, state.pc = .delivering index remove) ∨
    state.pc = .callbackThrew

theorem streams_start : Streams {} where
  fed _ member := by cases member
  quiet _ _ := rfl
  arrived _ := List.prefix_rfl
  delivered _ := by
    rw [freshFeed_nil]
    rfl
  ended _ isOver := by cases isOver
  idle some := absurd rfl some

namespace Streams

variable {state : TcpState}

/-- Between two deliveries. -/
theorem frames_nil (streams : Streams state) (resting : ∀ index remove, state.pc ≠ .delivering index remove)
    (alive : state.pc ≠ .callbackThrew) : state.frames = [] := by
  by_contra some
  rcases streams.idle some with ⟨index, remove, delivering⟩ | threw
  · exact resting index remove delivering
  · exact alive threw

/-- The program counter moves between two deliveries. -/
theorem move (streams : Streams state) (none : state.frames = []) (pc : TcpPc)
    (pfds : List PollFd) : Streams { state with pc, pfds } :=
  ⟨streams.fed, streams.quiet, streams.arrived, streams.delivered, streams.ended,
    fun some => absurd none some⟩

/-- Some clients go. -/
theorem shrink (streams : Streams state) {clients : List TcpClient} {fds : List Int}
    (fewer : ∀ client ∈ clients, client ∈ state.clients) {pc : TcpPc}
    (idle : state.frames ≠ [] → pc = .callbackThrew) :
    Streams { state with pc, clients, live := closed state.live fds } :=
  ⟨fun client member connection isOpen =>
      streams.fed client (fewer client member) connection (closed_some isOpen).2,
    streams.quiet, streams.arrived, streams.delivered, streams.ended, fun some => Or.inr (idle some)⟩

/-- A candidate is given to the callback. -/
theorem give (streams : Streams state) {frame : Connection × ByteVector}
    {frames : List (Connection × ByteVector)} (next : state.frames = frame :: frames) :
    Streams { state with frames, given := state.given ++ [frame] } := by
  have split (connection : Connection) : ofConnection connection state.frames =
      ofConnection connection [frame] ++ ofConnection connection frames := by
    rw [next, ← ofConnection_append]
    rfl
  refine ⟨streams.fed, streams.quiet, streams.arrived, fun connection => ?_,
    fun connection isOver => ?_, fun _ => streams.idle (by simp [next])⟩
  · rw [ofConnection_append, List.append_assoc, ← split]
    exact streams.delivered connection
  · obtain ⟨finished, whole, none⟩ := streams.ended connection isOver
    rw [split] at none
    exact ⟨finished, whole, (List.append_eq_nil_iff.mp none).2⟩

/-- Where `recv` has returned 0 nothing more arrives. -/
theorem running (streams : Streams state) {connection : Connection} {bytes : ByteVector}
    (some : bytes ≠ [])
    (next : bytes <+: (state.sent connection).drop (state.received connection).length) :
    ¬ state.ended connection = true := by
  intro isOver
  obtain ⟨_, whole, _⟩ := streams.ended connection isOver
  rw [whole, List.drop_length] at next
  exact some (List.prefix_nil.mp next)

/-- **Bytes arrive on one connection.** -/
theorem receive (streams : Streams state)
    (descriptors : Descriptors state.clients state.live state.accepted) {index : Nat} {remove : Bool}
    {client : TcpClient} {connection : Connection} {bytes readBuffer : ByteVector}
    {received : Connection → ByteVector} (there : state.clients[index]? = some client)
    (isOpen : state.live client.fd = some connection) (some : bytes ≠ [])
    (next : bytes <+: (state.sent connection).drop (state.received connection).length)
    (none : state.frames = []) (here : received connection = state.received connection ++ bytes)
    (elsewhere : ∀ other, other ≠ connection → received other = state.received other) :
    Streams
      { state with
        pc := .delivering index remove
        readBuffer
        clients := state.clients.set index
          { client with extractor := (client.extractor.feed bytes).2 }
        frames := (client.extractor.feed bytes).1.map fun frame => (connection, frame)
        received } := by
  have own := streams.fed client (List.mem_of_getElem? there) connection isOpen
  have fedAll := freshFeed_append (state.received connection) bytes
  rw [← own] at fedAll
  refine ⟨fun other member number live => ?_, fun number unknown => ?_, fun number => ?_,
    fun number => ?_, fun number isOver => ?_, fun _ => Or.inl ⟨index, remove, rfl⟩⟩
  · show other.extractor = (freshFeed (received number)).2
    rcases mem_feed descriptors.distinct there member with rfl | ⟨before, apart⟩
    · obtain rfl := Option.some.inj (isOpen.symm.trans live)
      rw [here, fedAll]
    · have different : number ≠ connection := by
        rintro rfl
        exact apart (descriptors.injective _ _ _ live isOpen)
      rw [elsewhere number different]
      exact streams.fed other before number live
  · have different : number ≠ connection :=
      Nat.ne_of_gt (Nat.lt_of_lt_of_le (descriptors.numbered _ _ isOpen) unknown)
    exact (elsewhere number different).trans (streams.quiet number unknown)
  · show received number <+: state.sent number
    by_cases this : number = connection
    · subst this
      rw [here]
      obtain ⟨rest, whole⟩ := streams.arrived number
      rw [← whole, List.drop_left] at next
      rw [← whole]
      exact (List.prefix_append_right_inj _).mpr next
    · rw [elsewhere number this]
      exact streams.arrived number
  · have before := streams.delivered number
    rw [none] at before
    show ofConnection number state.given ++ ofConnection number _ = (freshFeed (received number)).1
    by_cases this : number = connection
    · subst this
      rw [here, fedAll, ofConnection_marked, ← before]
      simp [ofConnection]
    · rw [elsewhere number this, ofConnection_others this]
      exact before
  · obtain ⟨finished, whole, _⟩ := streams.ended number isOver
    have different : number ≠ connection := by
      rintro rfl
      exact streams.running some next isOver
    exact ⟨finished, (elsewhere number different).trans whole, ofConnection_others different _⟩

/-- A new connection has sent nothing yet, and its extractor is fresh. -/
theorem accept (streams : Streams state)
    (descriptors : Descriptors state.clients state.live state.accepted) {fd : Int}
    (fresh : state.live fd = none) (grows : Bool) :
    Streams
      { state with
        clients := emplaceBack state.clients fd grows
        live := Function.update state.live fd (some state.accepted)
        accepted := state.accepted + 1 } := by
  refine ⟨fun client member connection isOpen => ?_,
    fun connection unknown => streams.quiet connection (Nat.le_of_succ_le unknown),
    streams.arrived, streams.delivered, streams.ended, streams.idle⟩
  rw [emplaceBack_eq] at member
  rcases List.mem_append.mp member with before | added
  · have apart := descriptors.fresh_fd fresh before
    exact streams.fed client before connection ((Function.update_of_ne apart ..).symm.trans isOpen)
  · obtain rfl := List.mem_singleton.mp added
    have new : Function.update state.live fd (some state.accepted) fd = some connection := isOpen
    rw [Function.update_self] at new
    obtain rfl := Option.some.inj new
    show ({} : StreamFrameExtractor) = (freshFeed (state.received state.accepted)).2
    rw [streams.quiet _ (Nat.le_refl _), freshFeed_nil]

/-- `recv` returns 0. -/
theorem finish (streams : Streams state) {connection : Connection}
    (finished : state.finished connection = true)
    (whole : state.received connection = state.sent connection) (none : state.frames = [])
    (pc : TcpPc) :
    Streams { state with pc, ended := Function.update state.ended connection true } := by
  refine ⟨streams.fed, streams.quiet, streams.arrived, streams.delivered, fun other isOver => ?_,
    fun some => absurd none some⟩
  by_cases this : other = connection
  · subst this
    exact ⟨finished, whole, by rw [none]; rfl⟩
  · exact streams.ended other ((Function.update_of_ne this ..).symm.trans isOver)

end Streams

theorem recvInto_take (readBuffer bytes : ByteVector) :
    (recvInto readBuffer bytes).take bytes.length = bytes := List.take_left

theorem streams_step {serverFd : Int} {state next : TcpState} (indexed : Indexed state)
    (descriptors : Descriptors state.clients state.live state.accepted) (streams : Streams state)
    (step : TcpStep serverFd state next) : Streams next := by
  have resting {pc : TcpPc} (here : state.pc = pc)
      (between : ∀ index remove, pc ≠ .delivering index remove) (alive : pc ≠ .callbackThrew) :
      state.frames = [] := by
    subst here
    exact streams.frames_nil between alive
  cases step with
  | sends connection bytes isOpen =>
      refine ⟨streams.fed, streams.quiet, fun other => ?_, streams.delivered, fun other isOver => ?_,
        streams.idle⟩
      · show _ <+: Function.update state.sent connection (state.sent connection ++ bytes) other
        by_cases this : other = connection
        · subst this
          rw [Function.update_self]
          exact (streams.arrived other).trans (List.prefix_append ..)
        · rw [Function.update_of_ne this]
          exact streams.arrived other
      · obtain ⟨finished, whole, none⟩ := streams.ended other isOver
        have apart : other ≠ connection := by
          rintro rfl
          rw [isOpen] at finished
          cases finished
        exact ⟨finished, whole.trans (Function.update_of_ne apart ..).symm, none⟩
  | shutsDown connection =>
      refine ⟨streams.fed, streams.quiet, streams.arrived, streams.delivered, fun other isOver => ?_,
        streams.idle⟩
      obtain ⟨finished, whole, none⟩ := streams.ended other isOver
      refine ⟨?_, whole, none⟩
      show Function.update state.finished connection true other = true
      by_cases this : other = connection
      · rw [this, Function.update_self]
      · rw [Function.update_of_ne this]
        exact finished
  | interrupts receiving => exact streams
  | acceptInterrupts accepting => exact streams
  | stops polling =>
      exact streams.shrink (fun _ member => by cases member) fun some =>
        absurd (resting polling nofun nofun) some
  | pollFails polling =>
      exact streams.shrink (fun _ member => by cases member) fun some =>
        absurd (resting polling nofun nofun) some
  | callbackThrows delivering next =>
      exact (streams.give next).shrink (fun _ member => by cases member) fun _ => rfl
  | setNonBlockingFails accepting =>
      have later : Streams { state with accepted := state.accepted + 1 } :=
        ⟨streams.fed, fun connection unknown => streams.quiet connection (Nat.le_of_succ_le unknown),
          streams.arrived, streams.delivered, streams.ended, streams.idle⟩
      exact later.shrink (fun _ member => by cases member) fun some =>
        absurd (resting accepting nofun nofun) some
  | idles polling => exact streams.move (resting polling nofun nofun) state.pc _
  | polls polling answered => exact streams.move (resting polling nofun nofun) _ _
  | skips visiting polled quiet => exact streams.move (resting visiting nofun nofun) _ _
  | drains visiting polled there readable => exact streams.move (resting visiting nofun nofun) _ _
  | passes visiting polled there ready unreadable =>
      exact streams.move (resting visiting nofun nofun) _ _
  | @receives index remove client connection bytes receiving there isOpen some fits next =>
      simp only [recvInto_take]
      exact streams.receive descriptors there isOpen some next (resting receiving nofun nofun)
        (Function.update_self ..) fun other apart => Function.update_of_ne apart ..
  | wouldBlock receiving => exact streams.move (resting receiving nofun nofun) _ _
  | recvFails receiving => exact streams.move (resting receiving nofun nofun) _ _
  | ends receiving there isOpen finished whole =>
      exact streams.finish finished whole (resting receiving nofun nofun) _
  | gives delivering next => exact streams.give next
  | delivers delivering none => exact streams.move none _ _
  | keeps leaving polled stays => exact streams.move (resting leaving nofun nofun) _ _
  | @removes index remove entry leaving polled goes =>
      obtain ⟨erased, _, there, _, _⟩ :=
        indexed (index + 1) (by rw [leaving]; rfl) index (Nat.lt_succ_self index)
      refine streams.shrink (fun client member => ?_) fun some =>
        absurd (resting leaving nofun nofun) some
      rw [eraseAt_eq there] at member
      exact List.mem_of_mem_eraseIdx member
  | visited visiting polled => exact streams.move (resting visiting nofun nofun) _ _
  | accepts grows accepting valid fresh => exact streams.accept descriptors fresh grows
  | acceptEnds accepting => exact streams.move (resting accepting nofun nofun) _ _

/-! ## Every run -/

/-- The entry of the snapshot that is processed. -/
def TcpPc.processes : TcpPc → Option Nat
  | visiting 0 => none
  | pc => pc.reach

/-- What the clients of a server may rely on: (i) the entry processed is about a client
that exists and has its descriptor; (ii) what the callback gets from one connection is
what a fresh extractor returns on the bytes received there, but for candidates on their
way, of which there are none unless the callback is being called, or threw; (iii) where
`recv` returned 0, that is on all the bytes sent there. -/
structure NoInterference (state : TcpState) : Prop where
  indexed : ∀ snapshotIndex, state.pc.processes = some snapshotIndex →
    ∃ client entry, state.clients[snapshotIndex - 1]? = some client ∧
      state.pfds[snapshotIndex]? = some entry ∧ client.fd = entry.fd
  candidates : ∀ connection,
    ofConnection connection state.given ++ ofConnection connection state.frames =
      (StreamFrameExtractor.feed {} (state.received connection)).1
  settled : (∀ index remove, state.pc ≠ .delivering index remove) → state.pc ≠ .callbackThrew →
    state.frames = []
  complete : ∀ connection, state.ended connection = true →
    ofConnection connection state.given =
      (StreamFrameExtractor.feed {} (state.sent connection)).1

theorem indexed_processes {state : TcpState} (indexed : Indexed state) {snapshotIndex : Nat}
    (processes : state.pc.processes = some snapshotIndex) :
    ∃ client entry, state.clients[snapshotIndex - 1]? = some client ∧
      state.pfds[snapshotIndex]? = some entry ∧ client.fd = entry.fd := by
  have reach : state.pc.reach = some snapshotIndex ∧ snapshotIndex ≠ 0 := by
    cases here : state.pc with
    | visiting index =>
        rw [here] at processes
        cases index with
        | zero => cases processes
        | succ index =>
            obtain rfl := Option.some.inj processes
            exact ⟨rfl, nofun⟩
    | receiving index remove =>
        rw [here] at processes
        obtain rfl := Option.some.inj processes
        exact ⟨rfl, nofun⟩
    | delivering index remove =>
        rw [here] at processes
        obtain rfl := Option.some.inj processes
        exact ⟨rfl, nofun⟩
    | leaving index remove =>
        rw [here] at processes
        obtain rfl := Option.some.inj processes
        exact ⟨rfl, nofun⟩
    | _ =>
        rw [here] at processes
        cases processes
  obtain ⟨index, rfl⟩ := Nat.exists_eq_succ_of_ne_zero reach.2
  exact indexed (index + 1) reach.1 index (Nat.lt_succ_self index)

end Stgs.Stream
