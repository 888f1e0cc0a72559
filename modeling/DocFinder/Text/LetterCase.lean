import DocFinder.Text.RangeTable

/-!
Letter case: the case maps of Unicode 14, as far as one code point goes, and the classes of small
letters that share a capital. Where a letter has a longer capital form, its first code point counts.
-/

namespace DocFinder.Text

/-- Every `step`-th code point from `first` to `last` is shifted by `shift`. -/
structure CaseRun where
  first : Nat
  last : Nat
  step : Nat
  shift : Int
  deriving DecidableEq, Repr

namespace CaseRun

def covers (run : CaseRun) (code : Nat) : Bool :=
  run.first ≤ code && code ≤ run.last && (code - run.first) % run.step == 0

def apply (run : CaseRun) (code : Nat) : Nat := (code + run.shift).toNat

def origin? (run : CaseRun) (image : Nat) : Option Nat :=
  let code := image - run.shift
  if 0 ≤ code ∧ run.covers code.toNat then some code.toNat else none

def meets (run : CaseRun) (first last : Nat) : Bool :=
  let low := max run.first first
  let next := low + (run.step - (low - run.first) % run.step) % run.step
  next ≤ run.last && next ≤ last

/-- Reads a run such as `61-7a:-20`: the range, then `:` for every code point or `/` for every
second one, then the shift. -/
def ofWord (word : List Char) : CaseRun :=
  let isMark (c : Char) := c == ':' || c == '/'
  let (first, last) := RangeTable.range (word.takeWhile (!isMark ·))
  match word.dropWhile (!isMark ·) with
  | mark :: sign :: digits =>
    let shift : Int := RangeTable.ofHex digits
    ⟨first, last, if mark == '/' then 2 else 1, if sign == '-' then -shift else shift⟩
  | _ => ⟨first, last, 1, 0⟩

def listOfText (text : String) : List CaseRun := (RangeTable.words text).map ofWord

end CaseRun

def smallRuns : List CaseRun := CaseRun.listOfText "
41-5a:+20 c0-d6:+20 d8-de:+20 100-12e/+1 130-130:-c7 132-136/+1 139-147/+1 14a-176/+1
178-178:-79 179-17d/+1 181-181:+d2 182-184/+1 186-186:+ce 187-187:+1 189-18a:+cd 18b-18b:+1
18e-18e:+4f 18f-18f:+ca 190-190:+cb 191-191:+1 193-193:+cd 194-194:+cf 196-196:+d3 197-197:+d1
198-198:+1 19c-19c:+d3 19d-19d:+d5 19f-19f:+d6 1a0-1a4/+1 1a6-1a6:+da 1a7-1a7:+1 1a9-1a9:+da
1ac-1ac:+1 1ae-1ae:+da 1af-1af:+1 1b1-1b2:+d9 1b3-1b5/+1 1b7-1b7:+db 1b8-1b8:+1 1bc-1bc:+1
1c4-1c4:+2 1c5-1c5:+1 1c7-1c7:+2 1c8-1c8:+1 1ca-1ca:+2 1cb-1db/+1 1de-1ee/+1 1f1-1f1:+2
1f2-1f4/+1 1f6-1f6:-61 1f7-1f7:-38 1f8-21e/+1 220-220:-82 222-232/+1 23a-23a:+2a2b 23b-23b:+1
23d-23d:-a3 23e-23e:+2a28 241-241:+1 243-243:-c3 244-244:+45 245-245:+47 246-24e/+1 370-372/+1
376-376:+1 37f-37f:+74 386-386:+26 388-38a:+25 38c-38c:+40 38e-38f:+3f 391-3a1:+20 3a3-3ab:+20
3cf-3cf:+8 3d8-3ee/+1 3f4-3f4:-3c 3f7-3f7:+1 3f9-3f9:-7 3fa-3fa:+1 3fd-3ff:-82 400-40f:+50
410-42f:+20 460-480/+1 48a-4be/+1 4c0-4c0:+f 4c1-4cd/+1 4d0-52e/+1 531-556:+30 10a0-10c5:+1c60
10c7-10c7:+1c60 10cd-10cd:+1c60 13a0-13ef:+97d0 13f0-13f5:+8 1c90-1cba:-bc0 1cbd-1cbf:-bc0
1e00-1e94/+1 1e9e-1e9e:-1dbf 1ea0-1efe/+1 1f08-1f0f:-8 1f18-1f1d:-8 1f28-1f2f:-8 1f38-1f3f:-8
1f48-1f4d:-8 1f59-1f5f/-8 1f68-1f6f:-8 1f88-1f8f:-8 1f98-1f9f:-8 1fa8-1faf:-8 1fb8-1fb9:-8
1fba-1fbb:-4a 1fbc-1fbc:-9 1fc8-1fcb:-56 1fcc-1fcc:-9 1fd8-1fd9:-8 1fda-1fdb:-64 1fe8-1fe9:-8
1fea-1feb:-70 1fec-1fec:-7 1ff8-1ff9:-80 1ffa-1ffb:-7e 1ffc-1ffc:-9 2126-2126:-1d5d
212a-212a:-20bf 212b-212b:-2046 2132-2132:+1c 2160-216f:+10 2183-2183:+1 24b6-24cf:+1a
2c00-2c2f:+30 2c60-2c60:+1 2c62-2c62:-29f7 2c63-2c63:-ee6 2c64-2c64:-29e7 2c67-2c6b/+1
2c6d-2c6d:-2a1c 2c6e-2c6e:-29fd 2c6f-2c6f:-2a1f 2c70-2c70:-2a1e 2c72-2c72:+1 2c75-2c75:+1
2c7e-2c7f:-2a3f 2c80-2ce2/+1 2ceb-2ced/+1 2cf2-2cf2:+1 a640-a66c/+1 a680-a69a/+1 a722-a72e/+1
a732-a76e/+1 a779-a77b/+1 a77d-a77d:-8a04 a77e-a786/+1 a78b-a78b:+1 a78d-a78d:-a528 a790-a792/+1
a796-a7a8/+1 a7aa-a7aa:-a544 a7ab-a7ab:-a54f a7ac-a7ac:-a54b a7ad-a7ad:-a541 a7ae-a7ae:-a544
a7b0-a7b0:-a512 a7b1-a7b1:-a52a a7b2-a7b2:-a515 a7b3-a7b3:+3a0 a7b4-a7c2/+1 a7c4-a7c4:-30
a7c5-a7c5:-a543 a7c6-a7c6:-8a38 a7c7-a7c9/+1 a7d0-a7d0:+1 a7d6-a7d8/+1 a7f5-a7f5:+1
ff21-ff3a:+20 10400-10427:+28 104b0-104d3:+28 10570-1057a:+27 1057c-1058a:+27 1058c-10592:+27
10594-10595:+27 10c80-10cb2:+40 118a0-118bf:+20 16e40-16e5f:+20 1e900-1e921:+22"

def capitalRuns : List CaseRun := CaseRun.listOfText "
61-7a:-20 b5-b5:+2e7 df-df:-8c e0-f6:-20 f8-fe:-20 ff-ff:+79 101-12f/-1 131-131:-e8 133-137/-1
13a-148/-1 149-149:+173 14b-177/-1 17a-17e/-1 17f-17f:-12c 180-180:+c3 183-185/-1 188-188:-1
18c-18c:-1 192-192:-1 195-195:+61 199-199:-1 19a-19a:+a3 19e-19e:+82 1a1-1a5/-1 1a8-1a8:-1
1ad-1ad:-1 1b0-1b0:-1 1b4-1b6/-1 1b9-1b9:-1 1bd-1bd:-1 1bf-1bf:+38 1c5-1c5:-1 1c6-1c6:-2
1c8-1c8:-1 1c9-1c9:-2 1cb-1cb:-1 1cc-1cc:-2 1ce-1dc/-1 1dd-1dd:-4f 1df-1ef/-1 1f0-1f0:-1a6
1f2-1f2:-1 1f3-1f3:-2 1f5-1f5:-1 1f9-21f/-1 223-233/-1 23c-23c:-1 23f-240:+2a3f 242-242:-1
247-24f/-1 250-250:+2a1f 251-251:+2a1c 252-252:+2a1e 253-253:-d2 254-254:-ce 256-257:-cd
259-259:-ca 25b-25b:-cb 25c-25c:+a54f 260-260:-cd 261-261:+a54b 263-263:-cf 265-265:+a528
266-266:+a544 268-268:-d1 269-269:-d3 26a-26a:+a544 26b-26b:+29f7 26c-26c:+a541 26f-26f:-d3
271-271:+29fd 272-272:-d5 275-275:-d6 27d-27d:+29e7 280-280:-da 282-282:+a543 283-283:-da
287-287:+a52a 288-288:-da 289-289:-45 28a-28b:-d9 28c-28c:-47 292-292:-db 29d-29d:+a515
29e-29e:+a512 345-345:+54 371-373/-1 377-377:-1 37b-37d:+82 390-390:+9 3ac-3ac:-26 3ad-3af:-25
3b0-3b0:-b 3b1-3c1:-20 3c2-3c2:-1f 3c3-3cb:-20 3cc-3cc:-40 3cd-3ce:-3f 3d0-3d0:-3e 3d1-3d1:-39
3d5-3d5:-2f 3d6-3d6:-36 3d7-3d7:-8 3d9-3ef/-1 3f0-3f0:-56 3f1-3f1:-50 3f2-3f2:+7 3f3-3f3:-74
3f5-3f5:-60 3f8-3f8:-1 3fb-3fb:-1 430-44f:-20 450-45f:-50 461-481/-1 48b-4bf/-1 4c2-4ce/-1
4cf-4cf:-f 4d1-52f/-1 561-586:-30 587-587:-52 10d0-10fa:+bc0 10fd-10ff:+bc0 13f8-13fd:-8
1c80-1c80:-186e 1c81-1c81:-186d 1c82-1c82:-1864 1c83-1c84:-1862 1c85-1c85:-1863 1c86-1c86:-185c
1c87-1c87:-1825 1c88-1c88:+89c2 1d79-1d79:+8a04 1d7d-1d7d:+ee6 1d8e-1d8e:+8a38 1e01-1e95/-1
1e96-1e96:-1e4e 1e97-1e97:-1e43 1e98-1e98:-1e41 1e99-1e99:-1e40 1e9a-1e9a:-1e59 1e9b-1e9b:-3b
1ea1-1eff/-1 1f00-1f07:+8 1f10-1f15:+8 1f20-1f27:+8 1f30-1f37:+8 1f40-1f45:+8 1f50-1f50:-1bab
1f51-1f51:+8 1f52-1f52:-1bad 1f53-1f53:+8 1f54-1f54:-1baf 1f55-1f55:+8 1f56-1f56:-1bb1
1f57-1f57:+8 1f60-1f67:+8 1f70-1f71:+4a 1f72-1f75:+56 1f76-1f77:+64 1f78-1f79:+80 1f7a-1f7b:+70
1f7c-1f7d:+7e 1f80-1f87:-78 1f88-1f8f:-80 1f90-1f97:-68 1f98-1f9f:-70 1fa0-1fa7:-38
1fa8-1faf:-40 1fb0-1fb2:+8 1fb3-1fb3:-1c22 1fb4-1fb4:-1c2e 1fb6-1fb6:-1c25 1fb7-1fb7:-1c26
1fbc-1fbc:-1c2b 1fbe-1fbe:-1c25 1fc2-1fc2:+8 1fc3-1fc3:-1c2c 1fc4-1fc4:-1c3b 1fc6-1fc6:-1c2f
1fc7-1fc7:-1c30 1fcc-1fcc:-1c35 1fd0-1fd1:+8 1fd2-1fd2:-1c39 1fd3-1fd3:-1c3a 1fd6-1fd6:-1c3d
1fd7-1fd7:-1c3e 1fe0-1fe1:+8 1fe2-1fe2:-1c3d 1fe3-1fe3:-1c3e 1fe4-1fe4:-1c43 1fe5-1fe5:+7
1fe6-1fe6:-1c41 1fe7-1fe7:-1c42 1ff2-1ff2:+8 1ff3-1ff3:-1c4a 1ff4-1ff4:-1c65 1ff6-1ff6:-1c4d
1ff7-1ff7:-1c4e 1ffc-1ffc:-1c53 214e-214e:-1c 2170-217f:-10 2184-2184:-1 24d0-24e9:-1a
2c30-2c5f:-30 2c61-2c61:-1 2c65-2c65:-2a2b 2c66-2c66:-2a28 2c68-2c6c/-1 2c73-2c73:-1
2c76-2c76:-1 2c81-2ce3/-1 2cec-2cee/-1 2cf3-2cf3:-1 2d00-2d25:-1c60 2d27-2d27:-1c60
2d2d-2d2d:-1c60 a641-a66d/-1 a681-a69b/-1 a723-a72f/-1 a733-a76f/-1 a77a-a77c/-1 a77f-a787/-1
a78c-a78c:-1 a791-a793/-1 a794-a794:+30 a797-a7a9/-1 a7b5-a7c3/-1 a7c8-a7ca/-1 a7d1-a7d1:-1
a7d7-a7d9/-1 a7f6-a7f6:-1 ab53-ab53:-3a0 ab70-abbf:-97d0 fb00-fb00:-faba fb01-fb01:-fabb
fb02-fb02:-fabc fb03-fb03:-fabd fb04-fb04:-fabe fb05-fb05:-fab2 fb06-fb06:-fab3 fb13-fb13:-f5cf
fb14-fb14:-f5d0 fb15-fb15:-f5d1 fb16-fb16:-f5c8 fb17-fb17:-f5d3 ff41-ff5a:-20 10428-1044f:-28
104d8-104fb:-28 10597-105a1:-27 105a3-105b1:-27 105b3-105b9:-27 105bb-105bc:-27 10cc0-10cf2:-40
118c0-118df:-20 16e60-16e7f:-20 1e922-1e943:-22"

/-- Classes of different small letters that have the same capital. -/
def sharedCapital : List (List Nat) := [
  [0x69, 0x131], [0x73, 0x17f], [0xb5, 0x3bc], [0x345, 0x3b9, 0x1fbe], [0x390, 0x1fd3],
  [0x3b0, 0x1fe3], [0x3b2, 0x3d0], [0x3b5, 0x3f5], [0x3b8, 0x3d1], [0x3ba, 0x3f0],
  [0x3c0, 0x3d6], [0x3c1, 0x3f1], [0x3c2, 0x3c3], [0x3c6, 0x3d5], [0x432, 0x1c80],
  [0x434, 0x1c81], [0x43e, 0x1c82], [0x441, 0x1c83], [0x442, 0x1c84, 0x1c85], [0x44a, 0x1c86],
  [0x463, 0x1c87], [0x1c88, 0xa64b], [0x1e61, 0x1e9b], [0xfb05, 0xfb06]]

def mapCase (runs : List CaseRun) (code : Nat) : Nat :=
  match runs.find? (·.covers code) with
  | none => code
  | some run => run.apply code

def asciiLower (code : Nat) : Nat := if 65 ≤ code ∧ code ≤ 90 then code + 32 else code

def asciiUpper (code : Nat) : Nat := if 97 ≤ code ∧ code ≤ 122 then code - 32 else code

def lower (code : Nat) : Nat :=
  if code < 128 then asciiLower code else mapCase smallRuns code

def upper (code : Nat) : Nat :=
  if code < 128 then asciiUpper code else mapCase capitalRuns code

def anyCased (first last : Nat) : Bool :=
  smallRuns.any (·.meets first last) || capitalRuns.any (·.meets first last)

def siblings (code : Nat) : List Nat :=
  match sharedCapital.find? (·.contains code) with
  | none => []
  | some letters => letters.erase code

def lowerOrigins (code : Nat) : List Nat :=
  let origins := smallRuns.filterMap (·.origin? code)
  if lower code == code then code :: origins else origins

end DocFinder.Text
