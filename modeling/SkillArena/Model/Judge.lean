/-
**The judge's text comparison.**

`normalize` of `judgeService.js`, which `code:run` repeats: trim white space, turn CR LF into LF.
-/

import SkillArena.Model.Types

namespace SkillArena

/-- The characters `String.prototype.trim` removes. -/
def isJsSpace (c : Char) : Bool :=
  c.toNat ∈ [0x9, 0xa, 0xb, 0xc, 0xd, 0x20, 0xa0, 0x1680, 0x2028, 0x2029, 0x202f, 0x205f, 0x3000, 0xfeff] ||
    (0x2000 ≤ c.toNat && c.toNat ≤ 0x200a)

/-- `str.trim()`. -/
def trim (text : Text) : Text := ((text.dropWhile isJsSpace).reverse.dropWhile isJsSpace).reverse

/-- `str.replace(/\r\n/g, '\n')`. -/
def replaceCrLf : Text → Text
  | '\r' :: '\n' :: rest => '\n' :: replaceCrLf rest
  | c :: rest => c :: replaceCrLf rest
  | [] => []

/-- `str?.trim().replace(/\r\n/g, '\n') || ''`. -/
def normalize : Option Text → Text
  | some text => replaceCrLf (trim text)
  | none => []

end SkillArena
