import Rulebook.Unicode.CodeSet

/-!
# Rulebook.Unicode.Folding

Characters that differ in case alone.

The forms of a letter are the same to a reader who does not look at case: `K`, `k` and the sign of
the kelvin are forms of one letter.  They are given by the distances between them.
-/

namespace Rulebook.Unicode.Folding

/-- The distances between two forms of a letter, with the characters from which a form is that far
up.  Version 16.0 of the standard. -/
def distances : List (Nat × CodeSet) := [
  (0x1, .ofTable "100-12E/2 132 134 136 139-147/2 14A-176/2 179 17B 17D 182 184 187 18B 191 198
      1A0 1A2 1A4 1A7 1AC 1AF 1B3 1B5 1B8 1BC 1C4-1C5 1C7-1C8 1CA-1CB 1CD-1DB/2 1DE-1EE/2
      1F1-1F2 1F4 1F8-21E/2 222-232/2 23B 241 246-24E/2 370 372 376 3C2 3D8-3EE/2 3F7 3FA
      460-480/2 48A-4BE/2 4C1-4CD/2 4D0-52E/2 1C84 1C89 1E00-1E94/2 1EA0-1EFE/2 2183 2C60 2C67
      2C69 2C6B 2C72 2C75 2C80-2CE2/2 2CEB 2CED 2CF2 A640-A66C/2 A680-A69A/2 A722-A72E/2
      A732-A76E/2 A779 A77B A77E-A786/2 A78B A790 A792 A796-A7A8/2 A7B4-A7C2/2 A7C7 A7C9 A7CC
      A7D0 A7D6 A7D8 A7DA A7F5 FB05"),
  (0x2, .ofTable "1C4 1C7 1CA 1F1"),
  (0x7, .ofTable "3F2 1FE5"),
  (0x8, .ofTable "3CF 13F0-13F5 1F00-1F07 1F10-1F15 1F20-1F27 1F30-1F37 1F40-1F45 1F51-1F57/2
      1F60-1F67 1F80-1F87 1F90-1F97 1FA0-1FA7 1FB0-1FB1 1FD0-1FD1 1FE0-1FE1"),
  (0x9, .ofTable "1FB3 1FC3 1FF3"),
  (0xF, .ofTable "3C6 4C0"),
  (0x10, .ofTable "2160-216F"),
  (0x16, .ofTable "3C0"),
  (0x19, .ofTable "3B8"),
  (0x1A, .ofTable "24B6-24CF"),
  (0x1C, .ofTable "2132"),
  (0x1E, .ofTable "3B2"),
  (0x1F, .ofTable "3A3"),
  (0x20, .ofTable "41-5A C0-D6 D8-DE 391-3A1 3A3-3AB 410-42F FF21-FF3A 10D50-10D65 118A0-118BF
      16E40-16E5F"),
  (0x22, .ofTable "1E900-1E921"),
  (0x23, .ofTable "3D1"),
  (0x25, .ofTable "388-38A"),
  (0x26, .ofTable "386"),
  (0x27, .ofTable "10570-1057A 1057C-1058A 1058C-10592 10594-10595"),
  (0x28, .ofTable "10400-10427 104B0-104D3"),
  (0x2F, .ofTable "3A6"),
  (0x30, .ofTable "3C1 531-556 2C00-2C2F A794"),
  (0x36, .ofTable "3A0 3BA"),
  (0x38, .ofTable "1BF"),
  (0x39, .ofTable "398"),
  (0x3A, .ofTable "1E61"),
  (0x3B, .ofTable "1E60"),
  (0x3C, .ofTable "3B8"),
  (0x3E, .ofTable "392"),
  (0x3F, .ofTable "38E-38F"),
  (0x40, .ofTable "38C 3B5 10C80-10CB2"),
  (0x45, .ofTable "244"),
  (0x47, .ofTable "245"),
  (0x4A, .ofTable "1F70-1F71"),
  (0x4F, .ofTable "18E"),
  (0x50, .ofTable "3A1 400-40F"),
  (0x54, .ofTable "345"),
  (0x56, .ofTable "39A 1F72-1F75"),
  (0x5C, .ofTable "398"),
  (0x60, .ofTable "395"),
  (0x61, .ofTable "195"),
  (0x64, .ofTable "1F76-1F77"),
  (0x70, .ofTable "1F7A-1F7B"),
  (0x74, .ofTable "345 37F"),
  (0x79, .ofTable "FF"),
  (0x7E, .ofTable "1F7C-1F7D"),
  (0x80, .ofTable "1F78-1F79"),
  (0x82, .ofTable "19E 37B-37D"),
  (0xA3, .ofTable "19A"),
  (0xC3, .ofTable "180"),
  (0xCA, .ofTable "18F"),
  (0xCB, .ofTable "190"),
  (0xCD, .ofTable "189-18A 193"),
  (0xCE, .ofTable "186"),
  (0xCF, .ofTable "194"),
  (0xD1, .ofTable "197"),
  (0xD2, .ofTable "181"),
  (0xD3, .ofTable "196 19C"),
  (0xD5, .ofTable "19D"),
  (0xD6, .ofTable "19F"),
  (0xD9, .ofTable "1B1-1B2"),
  (0xDA, .ofTable "1A6 1A9 1AE"),
  (0xDB, .ofTable "1B7"),
  (0x10C, .ofTable "73"),
  (0x12C, .ofTable "53"),
  (0x2E7, .ofTable "B5"),
  (0x307, .ofTable "B5"),
  (0x3A0, .ofTable "A7B3"),
  (0xBC0, .ofTable "10D0-10FA 10FD-10FF"),
  (0xEE6, .ofTable "1D7D"),
  (0x1824, .ofTable "463"),
  (0x1825, .ofTable "462"),
  (0x183C, .ofTable "44A"),
  (0x1842, .ofTable "441-442"),
  (0x1843, .ofTable "442"),
  (0x1844, .ofTable "43E"),
  (0x184D, .ofTable "434"),
  (0x184E, .ofTable "432"),
  (0x185C, .ofTable "42A"),
  (0x1862, .ofTable "421-422"),
  (0x1863, .ofTable "422"),
  (0x1864, .ofTable "41E"),
  (0x186D, .ofTable "414"),
  (0x186E, .ofTable "412"),
  (0x1C05, .ofTable "3B9"),
  (0x1C25, .ofTable "399"),
  (0x1C33, .ofTable "3B0"),
  (0x1C43, .ofTable "390"),
  (0x1C60, .ofTable "10A0-10C5 10C7 10CD"),
  (0x1C79, .ofTable "345"),
  (0x1D5D, .ofTable "3C9"),
  (0x1D7D, .ofTable "3A9"),
  (0x1DBF, .ofTable "DF"),
  (0x2046, .ofTable "E5"),
  (0x2066, .ofTable "C5"),
  (0x20BF, .ofTable "6B"),
  (0x20DF, .ofTable "4B"),
  (0x29E7, .ofTable "27D"),
  (0x29F7, .ofTable "26B"),
  (0x29FD, .ofTable "271"),
  (0x2A1C, .ofTable "251"),
  (0x2A1E, .ofTable "252"),
  (0x2A1F, .ofTable "250"),
  (0x2A28, .ofTable "23E"),
  (0x2A2B, .ofTable "23A"),
  (0x2A3F, .ofTable "23F-240"),
  (0x89C2, .ofTable "1C88"),
  (0x89C3, .ofTable "1C88"),
  (0x8A04, .ofTable "1D79"),
  (0x8A38, .ofTable "1D8E"),
  (0x97D0, .ofTable "13A0-13EF"),
  (0xA512, .ofTable "29E"),
  (0xA515, .ofTable "29D"),
  (0xA528, .ofTable "265"),
  (0xA52A, .ofTable "287"),
  (0xA541, .ofTable "26C"),
  (0xA543, .ofTable "282"),
  (0xA544, .ofTable "266 26A"),
  (0xA54B, .ofTable "261"),
  (0xA54F, .ofTable "25C"),
  (0xA567, .ofTable "264"),
  (0xA641, .ofTable "19B")]

/-- The set with all forms of its letters. -/
def close (s : CodeSet) : CodeSet :=
  distances.foldr
    (fun (distance, low) forms =>
      (s ∩ low).moveUp distance ∪ (s ∩ low.moveUp distance).moveDown distance ∪ forms)
    s

end Rulebook.Unicode.Folding
