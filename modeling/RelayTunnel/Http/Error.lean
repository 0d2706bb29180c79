import RelayTunnel.Text.Numeral

/-!
# Faults in messages

Why octets could not be read as an HTTP message, and the wording of each fault. The syntax of a
head and of a chunked body have small fault types of their own; they enter a `MessageError` as
its reason.
-/

set_option autoImplicit false

namespace RelayTunnel.Http

/-- The way in which octets fail to be a message head. -/
inductive HeadFault where
  | fieldName
  | fieldValue
  | lineEnd
  | status
  | token
  | version
  deriving DecidableEq

/-- The wording of a fault in a head. -/
def HeadFault.reason : HeadFault → String
  | .fieldName => "invalid header name"
  | .fieldValue => "invalid header value"
  | .lineEnd => "invalid new line"
  | .status => "invalid response status"
  | .token => "invalid token"
  | .version => "invalid HTTP version"

/-- Everything that can be wrong with a message. -/
inductive MessageError where
  | headTooLarge (size limit : Nat)
  | tooManyFields (limit : Nat)
  | malformedHead (reason : String)
  | badVersion (number : Option Nat)
  | badMethod
  | badTarget
  | badStatus (code : Option Nat)
  | badContentLength (reason : String)
  | malformedBody (reason : String)
  | io (reason : String)
  deriving DecidableEq

namespace MessageError

/-- An optional number, wrapped in `Some(…)` when present and `None` when absent. -/
def optionalNumber : Option Nat → String
  | some n => "Some(" ++ Text.decimalString n ++ ")"
  | none => "None"

def message : MessageError → String
  | .headTooLarge size limit =>
      "header size too large, current: " ++ Text.decimalString size ++ " exceed the limit "
        ++ Text.decimalString limit
  | .tooManyFields limit => "header number exceed the limit " ++ Text.decimalString limit
  | .malformedHead reason => "invalid header: " ++ reason
  | .badVersion number => "invalid http version: " ++ optionalNumber number
  | .badMethod => "invalid http method"
  | .badTarget => "invalid http uri"
  | .badStatus code => "invalid http status code: " ++ optionalNumber code
  | .badContentLength reason => "invalid content-length header: " ++ reason
  | .malformedBody reason => "invalid body: " ++ reason
  | .io reason => "io error: " ++ reason

end MessageError

end RelayTunnel.Http
