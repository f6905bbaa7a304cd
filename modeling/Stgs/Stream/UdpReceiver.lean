/-
# Stream.UdpReceiver -- one datagram, one candidate

`runUdp` polls its socket and receives one datagram at a time into a buffer of exactly
`maxFrameSize` bytes.  `MSG_TRUNC` makes `recvfrom` return the size of the datagram, not
of what it wrote: a datagram that does not fit is dropped, never cut.

`arrived` and `given` are history: the datagrams taken from the socket, and the
candidates given to the callback.
-/
import Stgs.Stream.TcpServer

namespace Stgs.Stream

open Stgs.Theory.Transition Stgs.Wire

set_option autoImplicit false

inductive UdpPc where
  | polling
  | receiving
  | delivering (bytes : ByteVector)
  | stopped
  | threw
  | callbackThrew
deriving DecidableEq

structure UdpState where
  pc : UdpPc := .polling
  buffer : ByteVector := List.replicate maxFrameSize 0
  arrived : List ByteVector := []
  given : List ByteVector := []

/-- What `recvfrom` writes: no more than there is room for. -/
def recvfromInto (buffer datagram : ByteVector) : ByteVector :=
  recvInto buffer (datagram.take buffer.length)

inductive UdpStep (state : UdpState) : UdpState → Prop where
  -- `poll`
  | stops (polling : state.pc = .polling) : UdpStep state { state with pc := .stopped }
  | idles (polling : state.pc = .polling) : UdpStep state state
  | pollFails (polling : state.pc = .polling) : UdpStep state { state with pc := .threw }
  | polls (polling : state.pc = .polling) : UdpStep state { state with pc := .receiving }
  -- `recvfrom`
  | recvFails (receiving : state.pc = .receiving) : UdpStep state { state with pc := .polling }
  | drops {datagram : ByteVector} (receiving : state.pc = .receiving)
      (large : state.buffer.length < datagram.length) :
      UdpStep state
        { state with
          pc := .polling
          buffer := recvfromInto state.buffer datagram
          arrived := state.arrived ++ [datagram] }
  | receives {datagram : ByteVector} (receiving : state.pc = .receiving)
      (fits : datagram.length ≤ state.buffer.length) :
      UdpStep state
        (let buffer := recvfromInto state.buffer datagram
         { state with
           pc := .delivering (buffer.take datagram.length)
           buffer
           arrived := state.arrived ++ [datagram] })
  -- the callback
  | gives {bytes : ByteVector} (delivering : state.pc = .delivering bytes) :
      UdpStep state { state with pc := .polling, given := state.given ++ [bytes] }
  | callbackThrows {bytes : ByteVector} (delivering : state.pc = .delivering bytes) :
      UdpStep state { state with pc := .callbackThrew, given := state.given ++ [bytes] }

/-- **`runUdp` once its socket is bound.** -/
def udpReceiver : System UdpState where
  start state := state = {}
  step := UdpStep

/-! ## What the callback gets -/

/-- What is on its way to the callback. -/
def UdpPc.pending : UdpPc → List ByteVector
  | delivering bytes => [bytes]
  | _ => []

/-- The datagrams that a buffer of `maxFrameSize` bytes holds. -/
def fitting (datagrams : List ByteVector) : List ByteVector :=
  datagrams.filter fun datagram => datagram.length ≤ maxFrameSize

structure Received (state : UdpState) : Prop where
  room : state.buffer.length = maxFrameSize
  whole : state.given ++ state.pc.pending = fitting state.arrived

theorem recvfromInto_length (buffer datagram : ByteVector) :
    (recvfromInto buffer datagram).length = buffer.length := by
  simp only [recvfromInto, recvInto, List.length_append, List.length_take, List.length_drop]
  omega

/-- A datagram that fits is in the buffer as it is. -/
theorem recvfromInto_take {buffer datagram : ByteVector} (fits : datagram.length ≤ buffer.length) :
    (recvfromInto buffer datagram).take datagram.length = datagram := by
  rw [recvfromInto, List.take_of_length_le fits]
  exact List.take_left

theorem fitting_concat (datagrams : List ByteVector) (datagram : ByteVector) :
    fitting (datagrams ++ [datagram]) =
      fitting datagrams ++ (if datagram.length ≤ maxFrameSize then [datagram] else []) := by
  rw [fitting, List.filter_append]
  by_cases fits : datagram.length ≤ maxFrameSize
  · simp [fits, fitting]
  · simp [fits, fitting]

theorem received_step {state next : UdpState} (received : Received state)
    (step : UdpStep state next) : Received next := by
  obtain ⟨room, whole⟩ := received
  cases step with
  | stops here => exact ⟨room, by rwa [here] at whole⟩
  | idles here => exact ⟨room, whole⟩
  | pollFails here => exact ⟨room, by rwa [here] at whole⟩
  | polls here => exact ⟨room, by rwa [here] at whole⟩
  | recvFails here => exact ⟨room, by rwa [here] at whole⟩
  | drops here large =>
      refine ⟨(recvfromInto_length _ _).trans room, ?_⟩
      rw [here] at whole
      rw [fitting_concat, if_neg (by omega), List.append_nil]
      exact whole
  | receives here fits =>
      refine ⟨(recvfromInto_length _ _).trans room, ?_⟩
      rw [here] at whole
      have before : state.given = fitting state.arrived := (List.append_nil _).symm.trans whole
      show state.given ++ [List.take _ _] = _
      rw [fitting_concat, if_pos (room ▸ fits), recvfromInto_take fits, before]
  | gives here =>
      rw [here] at whole
      exact ⟨room, (List.append_nil _).trans whole⟩
  | callbackThrows here =>
      rw [here] at whole
      exact ⟨room, (List.append_nil _).trans whole⟩

/-- **Each datagram that fits is given to the callback, whole, once and in order**; the
others are dropped. -/
theorem udp_given {state : UdpState} (reachable : udpReceiver.Reachable state) :
    state.given ++ state.pc.pending = fitting state.arrived := by
  have received : Received state := by
    refine System.invariant ?_ (fun _ _ => received_step) reachable
    rintro _ rfl
    exact ⟨List.length_replicate, rfl⟩
  exact received.whole

end Stgs.Stream
