import Clearance.Fault
import Clearance.Numeral
import Clearance.Text.Blank
import Clearance.Text.Digit

/-!
# Addresses of declared nodes

A declared node is brought into the form `host:port`. Blanks around it, the scheme of a URL and
slashes at the end are dropped. A host of version 6 of the Internet Protocol stands in brackets,
which its colons would otherwise make unreadable. A port of the node's own must lie between 1 and
65535 and is kept as it is written; a node without one takes the default port.
-/

namespace Clearance.Settings.Address

open Text (isDigit trim)

/-- The schemes that a node may be written with. -/
def schemes : List (List Char) := ["http://".toList, "https://".toList]

/-- The text without a scheme at its front, whatever the case of its letters. -/
def dropScheme (s : List Char) : List Char :=
  match schemes.find? (·.isPrefixOf (s.map Char.toLower)) with
  | some scheme => s.drop scheme.length
  | none => s

/-- The text without the slashes at its end. -/
def dropSlashes (s : List Char) : List Char :=
  (s.reverse.dropWhile (· == '/')).reverse

/-- The part of a declared node that says where it is. -/
def bare (node : List Char) : List Char :=
  dropSlashes (dropScheme (trim node))

/-- A host, and the text of its port if there is one. -/
structure Parts where
  host : List Char
  port : Option (List Char)
  deriving DecidableEq, Repr

/-- Splits a host in brackets from its port. -/
def splitBracketed (node : String) (s : List Char) : Except Fault Parts :=
  let host := s.takeWhile (· != ']')
  match s.dropWhile (· != ']') with
  | [_] => .ok ⟨host ++ [']'], none⟩
  | _ :: ':' :: port => .ok ⟨host ++ [']'], some port⟩
  | _ => .error (.configuration (.text (.node node)))

/-- Splits a host without brackets from its port. -/
def splitPlain (node : String) (s : List Char) : Except Fault Parts :=
  if 1 < s.count ':' then .error (.configuration (.text (.unbracketed node)))
  else
    let host := s.takeWhile (· != ':')
    match s.dropWhile (· != ':') with
    | [] => .ok ⟨host, none⟩
    | _ :: port => .ok ⟨host, some port⟩

/-- Splits the host of an address from its port. -/
def split (node : String) (s : List Char) : Except Fault Parts :=
  match s with
  | '[' :: _ => splitBracketed node s
  | _ => splitPlain node s

/-- Checks the port that a node carries. Digits that are not decimal pass for digits, so that it is
the number which cannot be read from them. -/
def checkPort (node : String) (port : List Char) : Except Fault Unit :=
  let refused := Fault.configuration (.text (.nodePort (String.ofList port) node))
  if port = [] ∨ !port.all isDigit then .error refused
  else match Numeral.readInt port with
    | .error flaw => .error (.value (.numeral flaw))
    | .ok number => if 0 < number ∧ number < 65536 then .ok () else .error refused

/-- The address of a declared node, with the default port if it has none of its own. -/
def qualify (node : String) (defaultPort : Int) : Except Fault String :=
  match split node (bare node.toList) with
  | .error fault => .error fault
  | .ok ⟨host, none⟩ => .ok (String.ofList host ++ ":" ++ toString defaultPort)
  | .ok ⟨host, some port⟩ =>
    match checkPort node port with
    | .error fault => .error fault
    | .ok () => .ok (String.ofList (host ++ ':' :: port))

end Clearance.Settings.Address
