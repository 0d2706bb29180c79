import RelayTunnel.Http.Error

/-!
# Payload items

What a body is made of once its framing is gone: pieces of payload, and its end. A reader of
bodies is asked for one item at a time and answers with a `Reply`.
-/

set_option autoImplicit false

namespace RelayTunnel.Http

/-- A piece of a body, or its end. -/
inductive PayloadItem where
  | chunk (data : Bytes)
  | eof
  deriving DecidableEq

/-- The answer of a reader to one request for an item: the item if there is one, and the reader and
the buffer afterwards. -/
structure Reply (reader : Type) where
  item : Except MessageError (Option PayloadItem)
  reader : reader
  buffer : Bytes

end RelayTunnel.Http
