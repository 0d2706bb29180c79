import RelayTunnel.Text.Numeral

/-!
# Server names

An encrypted connection is made to a server whose name can be checked against a certificate: a domain
name or an address. A domain name has at most 253 octets, its labels have between 1 and 63 letters,
digits, underscores and hyphens, and do not begin or end with a hyphen; the last label is not all
digits, and one dot may follow it.
-/

set_option autoImplicit false

namespace RelayTunnel.ServerName

def maxLength : Nat := 253

/-- The longest label of a domain name. -/
def maxLabel : Nat := 63

def hyphen : UInt8 := 0x2D
def dot : UInt8 := 0x2E
def underscore : UInt8 := 0x5F

/-- Whether an octet may stand in a label. -/
def isLabelChar (b : UInt8) : Bool :=
  Ascii.isAlpha b || Ascii.isDigit b || b == underscore || b == hyphen

/-- Whether octets are a label of a domain name. -/
def isLabel (label : Bytes) : Bool :=
  !label.isEmpty && label.length ≤ maxLabel && label.all isLabelChar
    && label.head? != some hyphen && label.getLast? != some hyphen

def isDomain (name : Bytes) : Bool :=
  let labels := name.splitOn dot
  let labels := if labels.getLast? == some [] then labels.dropLast else labels
  name.length ≤ maxLength && !labels.isEmpty && labels.all isLabel
    && !(labels.getLast?.map fun label => label.all Ascii.isDigit).getD true

/-- Whether octets are a number of an address: at most 255, without leading zeros. -/
def isAddressPart (part : Bytes) : Bool :=
  part.length ≤ 3 && part.all Ascii.isDigit && (part.length == 1 || part.head? != some 0x30)
    && match Text.decimal? (part.map fun b => Char.ofNat b.toNat) with
      | some n => n ≤ 255
      | none => false

/-- Whether octets are an address of version 4. -/
def isAddress4 (name : Bytes) : Bool :=
  let parts := name.splitOn dot
  parts.length == 4 && parts.all isAddressPart

/-- Whether a host, without brackets, can be checked against a certificate. A host with a colon is an
address of version 6. -/
def isValid (host : Bytes) : Bool :=
  isDomain host || isAddress4 host || host.contains Ascii.colon

end RelayTunnel.ServerName
