import CrateDocs.Charset.Page
import CrateDocs.Charset.Reader
import CrateDocs.Text.Utf8

/-!
Character sets as ways to read bytes. A strict reading has a character for every byte or fails; a
lossy one puts the replacement character in the place of each fault. Some sets cannot read a text
even so.
-/

namespace CrateDocs

structure Charset where
  strict : List UInt8 → Option (List Char)
  lossy : List UInt8 → Option (List Char)

namespace Charset

def ofRead (read : List UInt8 → Option (List (Option Char))) : Charset where
  strict s := (read s).bind fun cs => cs.mapM id
  lossy s := (read s).map fun cs => cs.map fun c => c.getD missing

def ofPage (p : Page) : Charset := ofRead fun s => some (p.read s)

def ofMachine (m : Machine σ) : Charset := ofRead m.read

def ofReading (f : Nat → List Nat → Reading) : Charset := ofMachine (Machine.stateless f)

def utf8 : Charset where
  strict s := (Text.Utf8.decode s).toOption
  lossy s := some (Text.Utf8.decodeLossy s.length s)

def marked (mark : List UInt8) (c : Charset) : Charset where
  strict s := c.strict (if mark.isPrefixOf s then s.drop mark.length else s)
  lossy s := c.lossy (if mark.isPrefixOf s then s.drop mark.length else s)

end Charset

end CrateDocs
