/-! What the host records as it works, in order. -/

namespace AspectHost

inductive Event where
  | hostCallDone (name : String) (payload : Int64)
  | hostCallOutOfGas (name : String)
  /-- A guest reported a failed assertion by four numbers. -/
  | guestAbort (message file line column : Int32)
  | ready (codeSize apis : Nat)
  | poolHit (key : String)
  | poolMiss (key : String)
  | poolRefresh (key : String)
  | poolEvict (key : String)
  | poolResetFailed (key : String)
  deriving DecidableEq

def Event.message : Event → String
  | hostCallDone n p => s!"host function done: {n}, payload {p.toInt} bytes"
  | hostCallOutOfGas n => s!"host function out of gas: {n}"
  | guestAbort m f l c =>
    s!"guest abort: message at {m.toInt}, file at {f.toInt}, line {l.toInt}, column {c.toInt}"
  | ready n a => s!"Wasmtime runtime ready: {n} bytes of code, {a} host APIs"
  | poolHit k => s!"pool hit: {k}"
  | poolMiss k => s!"pool miss: {k}"
  | poolRefresh k => s!"pool refresh: {k}"
  | poolEvict k => s!"pool evict: {k}"
  | poolResetFailed k => s!"pooled runtime {k} failed to reset"

end AspectHost
