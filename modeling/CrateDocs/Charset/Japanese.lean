import CrateDocs.Charset.JisX0208
import CrateDocs.Charset.JisX0212
import CrateDocs.Charset.JisX0213
import CrateDocs.Charset.Reader
import CrateDocs.Charset.Table

/-!
Japanese characters in bytes. The extended code gives a cell by its row and column, with a byte
before them that chooses the table; the shifted code lets the first byte count pairs of rows, so
that the letters of half width keep bytes of their own.

What the Japanese code page of Windows has beyond JIS X 0208: one row of signs and rows of further
characters, some of them twice.
-/

namespace CrateDocs.Charset

def windowsRow13 : Table where
  first := 1128
  lines := #[
  "①②③④⑤⑥⑦⑧⑨⑩⑪⑫⑬⑭⑮⑯⑰⑱⑲⑳ⅠⅡⅢⅣⅤⅥⅦⅧⅨⅩ�㍉㌔㌢㍍㌘㌧㌃㌶㍑㍗㌍㌦㌣㌫㍊㌻㎜㎝㎞㎎㎏㏄㎡��������㍻〝〟№㏍℡㊤㊥㊦㊧㊨㈱㈲㈹㍾㍽㍼≒≡∫∮∑√⊥∠∟⊿" ++
    "∵∩∪"]

def windowsRows89 : Table where
  first := 8272
  lines := #[
  "纊褜鍈銈蓜俉炻昱棈鋹曻彅丨仡仼伀伃伹佖侒侊侚侔俍偀倢俿倞偆偰偂傔僴僘兊兤冝冾凬刕劜劦勀勛匀匇匤卲厓厲叝﨎咜咊咩哿喆坙坥垬埈埇﨏塚增墲夋奓奛奝奣妤妺孖寀甯寘寬尞岦岺峵崧嵓﨑嵂嵭嶸嶹" ++
    "巐弡弴彧德",
  "忞恝悅悊惞惕愠惲愑愷愰憘戓抦揵摠撝擎敎昀昕昻昉昮昞昤晥晗晙晴晳暙暠暲暿曺朎朗杦枻桒柀栁桄棏﨓楨﨔榘槢樰橫橆橳橾櫢櫤毖氿汜沆汯泚洄涇浯涖涬淏淸淲淼渹湜渧渼溿澈澵濵瀅瀇瀨炅炫焏焄煜煆" ++
    "煇凞燁燾犱",
  "犾猤猪獷玽珉珖珣珒琇珵琦琪琩琮瑢璉璟甁畯皂皜皞皛皦益睆劯砡硎硤硺礰礼神祥禔福禛竑竧靖竫箞精絈絜綷綠緖繒罇羡羽茁荢荿菇菶葈蒴蕓蕙蕫﨟薰蘒﨡蠇裵訒訷詹誧誾諟諸諶譓譿賰賴贒赶﨣軏﨤逸遧" ++
    "郞都鄕鄧釚",
  "釗釞釭釮釤釥鈆鈐鈊鈺鉀鈼鉎鉙鉑鈹鉧銧鉷鉸鋧鋗鋙鋐﨧鋕鋠鋓錥錡鋻﨨錞鋿錝錂鍰鍗鎤鏆鏞鏸鐱鑅鑈閒隆﨩隝隯霳霻靃靍靏靑靕顗顥飯飼餧館馞驎髙髜魵魲鮏鮱鮻鰀鵰鵫鶴鸙黑��ⅰⅱⅲⅳⅴⅵⅶⅷⅸ" ++
    "ⅹ￢￤＇＂"]

def windowsRows115 : Table where
  first := 10716
  lines := #[
  "ⅰⅱⅲⅳⅴⅵⅶⅷⅸⅹⅠⅡⅢⅣⅤⅥⅦⅧⅨⅩ￢￤＇＂㈱№℡∵纊褜鍈銈蓜俉炻昱棈鋹曻彅丨仡仼伀伃伹佖侒侊侚侔俍偀倢俿倞偆偰偂傔僴僘兊兤冝冾凬刕劜劦勀勛匀匇匤卲厓厲叝﨎咜咊咩哿喆坙坥垬埈" ++
    "埇﨏塚增墲",
  "夋奓奛奝奣妤妺孖寀甯寘寬尞岦岺峵崧嵓﨑嵂嵭嶸嶹巐弡弴彧德忞恝悅悊惞惕愠惲愑愷愰憘戓抦揵摠撝擎敎昀昕昻昉昮昞昤晥晗晙晴晳暙暠暲暿曺朎朗杦枻桒柀栁桄棏﨓楨﨔榘槢樰橫橆橳橾櫢櫤毖氿汜沆" ++
    "汯泚洄涇浯",
  "涖涬淏淸淲淼渹湜渧渼溿澈澵濵瀅瀇瀨炅炫焏焄煜煆煇凞燁燾犱犾猤猪獷玽珉珖珣珒琇珵琦琪琩琮瑢璉璟甁畯皂皜皞皛皦益睆劯砡硎硤硺礰礼神祥禔福禛竑竧靖竫箞精絈絜綷綠緖繒罇羡羽茁荢荿菇菶葈蒴" ++
    "蕓蕙蕫﨟薰",
  "蘒﨡蠇裵訒訷詹誧誾諟諸諶譓譿賰賴贒赶﨣軏﨤逸遧郞都鄕鄧釚釗釞釭釮釤釥鈆鈐鈊鈺鉀鈼鉎鉙鉑鈹鉧銧鉷鉸鋧鋗鋙鋐﨧鋕鋠鋓錥錡鋻﨨錞鋿錝錂鍰鍗鎤鏆鏞鏸鐱鑅鑈閒隆﨩隝隯霳霻靃靍靏靑靕顗顥飯飼" ++
    "餧館馞驎髙",
  "髜魵魲鮏鮱鮻鰀鵰鵫鶴鸙黑"]

def windowsChanged : List (Nat × Char) := [
  (32, '～'), (33, '∥'), (60, '－'), (80, '￠'), (81, '￡'), (137, '￢')]

inductive Edition where
  | first
  | second
  deriving DecidableEq

def halfWidth? (b : Nat) : Option Char :=
  if 0xA1 ≤ b ∧ b ≤ 0xDF then some (Char.ofNat (0xFEC0 + b)) else none

def roman (b : Nat) : Char :=
  if b = 0x5C then '\u00a5' else if b = 0x7E then '\u203e' else Char.ofNat b

def wideBackslash : Nat := 31

def wideTilde : Nat := 111

def isLate (e : Edition) (n : Nat) : Bool := e == .first && jisX0213Late.contains n

def firstPlane? (e : Edition) (n : Nat) : Option (List Char) :=
  if isLate e n then none
  else
    match jisX0208.char? n <|> jisX0213Added.char? n with
    | some c => some [c]
    | none => (jisX0213Pairs.lookup n).map fun cs => cs.map Char.ofNat

def secondPlane? (e : Edition) (n : Nat) : Option Char :=
  if e = .first ∧ n = jisX0213Changed then some '\u9b1d' else jisX0213Second.char? n

/-- A character of two bytes that name a cell. Both are at fault if the cell is not there yet. -/
def ofCell (e : Edition) (f : Nat → Option (List Char)) : Option Nat → Reading
  | some n => if isLate e n then .fault 1 else .ofChars? (f n) 1
  | none => .fault 0

namespace Extended

def japanese (b : Nat) (r : List Nat) : Reading :=
  if b < 0x80 then .byte b
  else
    match b, r with
    | 0x8E, c :: _ => .ofChar? (halfWidth? c) 1
    | 0x8F, c :: d :: _ => .ofChar? (jisX0212.highAt? c d) 2
    | 0x8F, _ => .cut r
    | _, c :: _ => .ofChar? (jisX0208.highAt? b c) 1
    | _, [] => .cut r

/-- The extended code with the two planes of JIS X 0213, the second one along with JIS X 0212. -/
def twoPlanes (e : Edition) (b : Nat) (r : List Nat) : Reading :=
  let cell? (x y : Nat) := Charset.cell? (x - 0x80) (y - 0x80)
  if b < 0x80 then .byte b
  else
    match b, r with
    | 0x8E, c :: _ => .ofChar? (halfWidth? c) 1
    | 0x8F, c :: d :: _ =>
      .ofChar? ((cell? c d).bind fun n => secondPlane? e n <|> jisX0212.char? n) 2
    | 0x8F, _ => .cut r
    | _, c :: _ => ofCell e (firstPlane? e) (cell? b c)
    | _, [] => .cut r

end Extended

namespace Shifted

def lead? (b : Nat) : Option Nat :=
  if 0x81 ≤ b ∧ b ≤ 0x9F then some (b - 0x81)
  else if 0xE0 ≤ b ∧ b ≤ 0xFC then some (b - 0xC1)
  else none

def trail? (b : Nat) : Option Nat :=
  if 0x40 ≤ b ∧ b ≤ 0x7E then some (b - 0x40)
  else if 0x80 ≤ b ∧ b ≤ 0xFC then some (b - 0x41)
  else none

def cell? (b c : Nat) : Option Nat := do
  let i ← lead? b
  let k ← trail? c
  return i * (2 * rowSize) + k

def japanese (b : Nat) (r : List Nat) : Reading :=
  match halfWidth? b with
  | some c => .text [c] 0
  | none => .pair (fun b c => (cell? b c).bind fun n => (jisX0208.char? n).map fun c => [c]) b r

def windowsCell? (n : Nat) : Option Char :=
  windowsChanged.lookup n <|> windowsRow13.char? n <|> windowsRows89.char? n <|>
    windowsRows115.char? n <|> jisX0208.char? n

def windowsPair? (b c : Nat) : Option Char :=
  if 0xF0 ≤ b ∧ b ≤ 0xF9 then
    (trail? c).map fun k => Char.ofNat (0xE000 + (b - 0xF0) * (2 * rowSize) + k)
  else (cell? b c).bind windowsCell?

def windows (b : Nat) (r : List Nat) : Reading :=
  if b = 0x80 then .byte b
  else if b = 0xA0 then .text ['\uf8f0'] 0
  else if 0xFD ≤ b then .text [Char.ofNat (0xF8F1 + (b - 0xFD))] 0
  else
    match halfWidth? b with
    | some c => .text [c] 0
    | none => .pair (fun b c => (windowsPair? b c).map fun c => [c]) b r

def secondRow (row : Nat) : Nat :=
  if 0x67 ≤ row then row + 7 else if 0x63 ≤ row ∨ row = 0x5F then row - 0x37 else row - 0x3D

def twoPlanesCell? (e : Edition) (n : Nat) : Option (List Char) :=
  let size := rowSize * rowSize
  if n = wideBackslash then some ['\\']
  else if n = wideTilde then some ['~']
  else if n < size then firstPlane? e n
  else
    (secondPlane? e ((secondRow (n / rowSize) - 0x21) * rowSize + n % rowSize)).map fun c => [c]

def twoPlanes (e : Edition) (b : Nat) (r : List Nat) : Reading :=
  if b < 0x80 then .text [roman b] 0
  else
    match halfWidth? b, r with
    | some c, _ => .text [c] 0
    | none, [] => .cut r
    | none, c :: _ => ofCell e (twoPlanesCell? e) (cell? b c)

end Shifted

end CrateDocs.Charset
