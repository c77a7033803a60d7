import DocQuery.Text.Ranges

/-!
# Simple case folding

Two characters are the same up to case when the Unicode standard, version 17, folds them to one
character.  Each class of such characters is represented by its least member.
-/

namespace DocQuery.Text

/-- The shift from a character to the least one that is the same up to case. -/
def caseFoldShifts : List Shift := Shift.listOfLines [
    "61-7a/-20 e0-f6/-20 f8-fe/-20 101-12f:-1 133-137:-1 13a-148:-1 14b-177:-1 178-178/-79",
    "17a-17e:-1 17f-17f/-12c 183-185:-1 188-188/-1 18c-18c/-1 192-192/-1 199-199/-1 1a1-1a5:-1",
    "1a8-1a8/-1 1ad-1ad/-1 1b0-1b0/-1 1b4-1b6:-1 1b9-1b9/-1 1bd-1bd/-1 1c5-1c5/-1 1c6-1c6/-2",
    "1c8-1c8/-1 1c9-1c9/-2 1cb-1cb/-1 1cc-1cc/-2 1ce-1dc:-1 1dd-1dd/-4f 1df-1ef:-1 1f2-1f2/-1",
    "1f3-1f3/-2 1f5-1f5/-1 1f6-1f6/-61 1f7-1f7/-38 1f9-21f:-1 220-220/-82 223-233:-1 23c-23c/-1",
    "23d-23d/-a3 242-242/-1 243-243/-c3 247-24f:-1 253-253/-d2 254-254/-ce 256-257/-cd",
    "259-259/-ca 25b-25b/-cb 260-260/-cd 263-263/-cf 268-268/-d1 269-269/-d3 26f-26f/-d3",
    "272-272/-d5 275-275/-d6 280-280/-da 283-283/-da 288-288/-da 289-289/-45 28a-28b/-d9",
    "28c-28c/-47 292-292/-db 371-373:-1 377-377/-1 399-399/-54 39c-39c/-2e7 3ac-3ac/-26",
    "3ad-3af/-25 3b1-3b8/-20 3b9-3b9/-74 3ba-3bb/-20 3bc-3bc/-307 3bd-3c1/-20 3c2-3c2/-1f",
    "3c3-3cb/-20 3cc-3cc/-40 3cd-3ce/-3f 3d0-3d0/-3e 3d1-3d1/-39 3d5-3d5/-2f 3d6-3d6/-36",
    "3d7-3d7/-8 3d9-3ef:-1 3f0-3f0/-56 3f1-3f1/-50 3f3-3f3/-74 3f4-3f4/-5c 3f5-3f5/-60 3f8-3f8/-1",
    "3f9-3f9/-7 3fb-3fb/-1 3fd-3ff/-82 430-44f/-20 450-45f/-50 461-481:-1 48b-4bf:-1 4c2-4ce:-1",
    "4cf-4cf/-f 4d1-52f:-1 561-586/-30 13f8-13fd/-8 1c80-1c80/-186e 1c81-1c81/-186d",
    "1c82-1c82/-1864 1c83-1c84/-1862 1c85-1c85/-1863 1c86-1c86/-185c 1c87-1c87/-1825 1c8a-1c8a/-1",
    "1c90-1cba/-bc0 1cbd-1cbf/-bc0 1e01-1e95:-1 1e9b-1e9b/-3b 1e9e-1e9e/-1dbf 1ea1-1eff:-1",
    "1f08-1f0f/-8 1f18-1f1d/-8 1f28-1f2f/-8 1f38-1f3f/-8 1f48-1f4d/-8 1f59-1f5f:-8 1f68-1f6f/-8",
    "1f88-1f8f/-8 1f98-1f9f/-8 1fa8-1faf/-8 1fb8-1fb9/-8 1fba-1fbb/-4a 1fbc-1fbc/-9",
    "1fbe-1fbe/-1c79 1fc8-1fcb/-56 1fcc-1fcc/-9 1fd3-1fd3/-1c43 1fd8-1fd9/-8 1fda-1fdb/-64",
    "1fe3-1fe3/-1c33 1fe8-1fe9/-8 1fea-1feb/-70 1fec-1fec/-7 1ff8-1ff9/-80 1ffa-1ffb/-7e",
    "1ffc-1ffc/-9 2126-2126/-1d7d 212a-212a/-20df 212b-212b/-2066 214e-214e/-1c 2170-217f/-10",
    "2184-2184/-1 24d0-24e9/-1a 2c30-2c5f/-30 2c61-2c61/-1 2c62-2c62/-29f7 2c63-2c63/-ee6",
    "2c64-2c64/-29e7 2c65-2c65/-2a2b 2c66-2c66/-2a28 2c68-2c6c:-1 2c6d-2c6d/-2a1c 2c6e-2c6e/-29fd",
    "2c6f-2c6f/-2a1f 2c70-2c70/-2a1e 2c73-2c73/-1 2c76-2c76/-1 2c7e-2c7f/-2a3f 2c81-2ce3:-1",
    "2cec-2cee:-1 2cf3-2cf3/-1 2d00-2d25/-1c60 2d27-2d27/-1c60 2d2d-2d2d/-1c60 a641-a649:-1",
    "a64a-a64a/-89c2 a64b-a64b/-89c3 a64d-a66d:-1 a681-a69b:-1 a723-a72f:-1 a733-a76f:-1",
    "a77a-a77c:-1 a77d-a77d/-8a04 a77f-a787:-1 a78c-a78c/-1 a78d-a78d/-a528 a791-a793:-1",
    "a797-a7a9:-1 a7aa-a7aa/-a544 a7ab-a7ab/-a54f a7ac-a7ac/-a54b a7ad-a7ad/-a541 a7ae-a7ae/-a544",
    "a7b0-a7b0/-a512 a7b1-a7b1/-a52a a7b2-a7b2/-a515 a7b5-a7c3:-1 a7c4-a7c4/-30 a7c5-a7c5/-a543",
    "a7c6-a7c6/-8a38 a7c8-a7ca:-1 a7cb-a7cb/-a567 a7cd-a7db:-1 a7dc-a7dc/-a641 a7f6-a7f6/-1",
    "ab53-ab53/-3a0 ab70-abbf/-97d0 fb06-fb06/-1 ff41-ff5a/-20 10428-1044f/-28 104d8-104fb/-28",
    "10597-105a1/-27 105a3-105b1/-27 105b3-105b9/-27 105bb-105bc/-27 10cc0-10cf2/-40",
    "10d70-10d85/-20 118c0-118df/-20 16e60-16e7f/-20 16ebb-16ed3/-1b 1e922-1e943/-22"]

/-- The representative of a character up to case. -/
def caseFold (n : Nat) : Nat := (Shift.image? caseFoldShifts n).getD n

/-- All characters that are the same as the given one up to case. -/
def caseOrbit (n : Nat) : List Nat :=
  let least := caseFold n
  least :: caseFoldShifts.filterMap (·.source? least)

/-- The code points that a run moves. -/
def Shift.sources (s : Shift) : List Nat :=
  (List.range (s.last + 1 - s.first)).filterMap fun i =>
    if i % s.step = 0 then some (s.first + i) else none

/-- A set together with everything that is the same as one of its members up to case. -/
def caseClosure (r : Ranges) : Ranges :=
  let add (out : Ranges) (n : Nat) : Ranges :=
    let orbit := caseOrbit n
    if orbit.any r.contains then orbit.foldl (fun out m => out.insert m m) out else out
  match r with
  | [(n, m)] =>
    if n = m then (caseOrbit n).foldl (fun out m => out.insert m m) r
    else (caseFoldShifts.flatMap Shift.sources).foldl add r
  | r => (caseFoldShifts.flatMap Shift.sources).foldl add r

end DocQuery.Text
