import DocFinder.Text.RangeTable

/-!
Numerals: the decimal digits of every script of Unicode 14 with their values, and the wider class
of code points that have a numeric value.
-/

namespace DocFinder.Text

def digitZeros : List Nat :=
  (RangeTable.ofText "
660 6f0 7c0 966 9e6 a66 ae6 b66 be6 c66 ce6 d66 de6 e50 ed0 f20 1040 1090 17e0 1810 1946 19d0
1a80 1a90 1b50 1bb0 1c40 1c50 a620 a8d0 a900 a9d0 a9f0 aa50 abf0 ff10 104a0 10d30 11066 110f0
11136 111d0 112f0 11450 114d0 11650 116c0 11730 118e0 11950 11c50 11d50 11da0 16a60 16ac0 16b50
1d7ce 1d7d8 1d7e2 1d7ec 1d7f6 1e140 1e2f0 1e950 1fbf0").ranges.toList.map (·.1)

/-- Code points beyond ASCII that have a numeric value. -/
def numericTable : RangeTable := .ofText "
b2-b3 b9 bc-be 660-669 6f0-6f9 7c0-7c9 966-96f 9e6-9ef 9f4-9f9 a66-a6f ae6-aef b66-b6f b72-b77
be6-bf2 c66-c6f c78-c7e ce6-cef d58-d5e d66-d78 de6-def e50-e59 ed0-ed9 f20-f33 1040-1049
1090-1099 1369-137c 16ee-16f0 17e0-17e9 17f0-17f9 1810-1819 1946-194f 19d0-19da 1a80-1a89
1a90-1a99 1b50-1b59 1bb0-1bb9 1c40-1c49 1c50-1c59 2070 2074-2079 2080-2089 2150-2182 2185-2189
2460-249b 24ea-24ff 2776-2793 2cfd 3007 3021-3029 3038-303a 3192-3195 3220-3229 3248-324f
3251-325f 3280-3289 32b1-32bf 3405 3483 382a 3b4d 4e00 4e03 4e07 4e09 4e5d 4e8c 4e94 4e96
4ebf-4ec0 4edf 4ee8 4f0d 4f70 5104 5146 5169 516b 516d 5341 5343-5345 534c 53c1-53c4 56db 58f1
58f9 5e7a 5efe-5eff 5f0c-5f0e 5f10 62fe 634c 67d2 6f06 7396 767e 8086 842c 8cae 8cb3 8d30 9621
9646 964c 9678 96f6 a620-a629 a6e6-a6ef a830-a835 a8d0-a8d9 a900-a909 a9d0-a9d9 a9f0-a9f9
aa50-aa59 abf0-abf9 f96b f973 f978 f9b2 f9d1 f9d3 f9fd ff10-ff19 10107-10133 10140-10178
1018a-1018b 102e1-102fb 10320-10323 10341 1034a 103d1-103d5 104a0-104a9 10858-1085f 10879-1087f
108a7-108af 108fb-108ff 10916-1091b 109bc-109bd 109c0-109cf 109d2-109ff 10a40-10a48 10a7d-10a7e
10a9d-10a9f 10aeb-10aef 10b58-10b5f 10b78-10b7f 10ba9-10baf 10cfa-10cff 10d30-10d39 10e60-10e7e
10f1d-10f26 10f51-10f54 10fc5-10fcb 11052-1106f 110f0-110f9 11136-1113f 111d0-111d9 111e1-111f4
112f0-112f9 11450-11459 114d0-114d9 11650-11659 116c0-116c9 11730-1173b 118e0-118f2 11950-11959
11c50-11c6c 11d50-11d59 11da0-11da9 11fc0-11fd4 12400-1246e 16a60-16a69 16ac0-16ac9 16b50-16b59
16b5b-16b61 16e80-16e96 1d2e0-1d2f3 1d360-1d378 1d7ce-1d7ff 1e140-1e149 1e2f0-1e2f9 1e8c7-1e8cf
1e950-1e959 1ec71-1ecab 1ecad-1ecaf 1ecb1-1ecb4 1ed01-1ed2d 1ed2f-1ed3d 1f100-1f10c 1fbf0-1fbf9
20001 20064 200e2 20121 2092a 20983 2098c 2099c 20aea 20afd 20b19 22390 22998 23b1b 2626d 2f890"

def isAsciiDigit (code : Nat) : Bool := 48 ≤ code && code ≤ 57

def digitValue? (code : Nat) : Option Nat :=
  if code < 128 then if isAsciiDigit code then some (code - 48) else none
  else (digitZeros.find? fun first => first ≤ code && code < first + 10).map (code - ·)

def isDecimalDigit (code : Nat) : Bool := (digitValue? code).isSome

def isNumeric (code : Nat) : Bool :=
  if code < 128 then isAsciiDigit code else numericTable.contains code

end DocFinder.Text
