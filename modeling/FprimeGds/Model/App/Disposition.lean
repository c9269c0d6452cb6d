import FprimeGds.Model.App.Data

/-! # What a message calls for

This is the purpose of the dispatchers, in terms of the message and the configuration alone: which
handler a message is for, or why it is for none. An execution updates the global data in a known way,
and of the actions performed the observable ones are kept: handlers entered, counters incremented,
event IDs sent and housekeeping packets transmitted.
-/

namespace FprimeGds.Model.App

open Cfe Machine

/-- The handler of a ground command code. -/
def groundHandler (fcnCode : UInt16) : Option Handler :=
  if fcnCode = noopCc then some .noopCmd
  else if fcnCode = resetCountersCc then some .resetCountersCmd
  else if fcnCode = processCc then some .processCmd
  else if fcnCode = displayParamCc then some .displayParamCmd
  else none

/-- Housekeeping has a message ID of its own and no command code. -/
theorem groundHandler_ne_sendHkCmd (fcnCode : UInt16) : groundHandler fcnCode ≠ some .sendHkCmd := by
  unfold groundHandler
  split_ifs <;> exact nofun

/-- The exact size of the message a handler takes. -/
def Config.sizeOf (config : Config) : Handler → ℕ
  | .displayParamCmd => config.displayParamCmdSize
  | _ => config.noArgsCmdSize

inductive Disposition where
  | execute (handler : Handler)
  | wrongLength
  | unknownCode
  | unknownMsgId
deriving DecidableEq, Repr

/-- Housekeeping requests of any size are executed; ground commands only at their exact size. -/
def disposition (config : Config) (message : Message config.stringValLen) : Disposition :=
  if message.msgId = config.sendHkMid then .execute .sendHkCmd
  else if message.msgId = config.cmdMid then
    match groundHandler message.fcnCode with
    | none => .unknownCode
    | some handler => if config.sizeOf handler = message.size then .execute handler else .wrongLength
  else .unknownMsgId

/-- The global data after a handler has run. -/
def Handler.update (data : Data) : Handler → Data
  | .sendHkCmd => { data with hkTlm := ⟨data.cmdCounter, data.errCounter, data.hkTlm.spare⟩ }
  | .resetCountersCmd => { data with cmdCounter := 0, errCounter := 0 }
  | _ => { data with cmdCounter := data.cmdCounter + 1 }

/-- What `FPRIME_GDS_ProcessCmd` and the other handlers return. -/
def Handler.status (services : TblServices) : Handler → Status
  | .processCmd =>
      if services.getAddress < success then services.getAddress else services.releaseAddress
  | _ => success

/-- The observable part of a record of actions. -/
structure Summary where
  entered : List Handler
  incremented : List Counter
  eventIds : List ℕ
  transmitted : List HkTlmPayload
deriving DecidableEq, Repr

namespace Summary

def empty : Summary := ⟨[], [], [], []⟩

instance : Append Summary where
  append first second := ⟨first.entered ++ second.entered, first.incremented ++ second.incremented,
    first.eventIds ++ second.eventIds, first.transmitted ++ second.transmitted⟩

end Summary

def summarize (trace : List Action) : Summary where
  entered := trace.filterMap fun | .enter handler => some handler | _ => none
  incremented := trace.filterMap fun | .increment counter => some counter | _ => none
  eventIds := trace.filterMap fun | .sendEvent event => some event.eventId | _ => none
  transmitted := trace.filterMap fun | .transmitMsg hkTlm _ => some hkTlm | _ => none

/-- What a handler does that can be observed. -/
def Handler.summary (data : Data) : Handler → Summary
  | .sendHkCmd => ⟨[.sendHkCmd], [], [], [⟨data.cmdCounter, data.errCounter, data.hkTlm.spare⟩]⟩
  | .noopCmd => ⟨[.noopCmd], [.cmdCounter], [noopInfEid], []⟩
  | .resetCountersCmd => ⟨[.resetCountersCmd], [], [resetInfEid], []⟩
  | .processCmd => ⟨[.processCmd], [.cmdCounter], [], []⟩
  | .displayParamCmd => ⟨[.displayParamCmd], [.cmdCounter], [valueInfEid], []⟩

/-- What a disposition comes to in the plain build: the global data afterwards. -/
def Disposition.update (data : Data) : Disposition → Data
  | .execute handler => handler.update data
  | .wrongLength => { data with errCounter := data.errCounter + 1 }
  | .unknownCode | .unknownMsgId => data

/-- What a disposition comes to in the plain build: the observable actions. -/
def Disposition.summary (data : Data) : Disposition → Summary
  | .execute handler => handler.summary data
  | .wrongLength => ⟨[], [.errCounter], [cmdLenErrEid], []⟩
  | .unknownCode => ⟨[], [], [ccErrEid], []⟩
  | .unknownMsgId => ⟨[], [], [midErrEid], []⟩

@[simp] theorem summarize_append (first second : List Action) :
    summarize (first ++ second) = summarize first ++ summarize second := by
  simp only [summarize, List.filterMap_append]
  rfl

@[simp] theorem Summary.append_empty (summary : Summary) : summary ++ .empty = summary := by
  obtain ⟨entered, incremented, eventIds, transmitted⟩ := summary
  change Summary.mk (entered ++ []) (incremented ++ []) (eventIds ++ []) (transmitted ++ []) = _
  simp only [List.append_nil]

end FprimeGds.Model.App
