import TunnelSync.Text.Runs

/-!
# Properties of characters

The properties that decide whether a label of a domain name is well formed.

* `markRuns` : the combining marks
* `combiningClass` : the canonical combining class
* `compositions` : the canonical compositions of two characters
* `bidiClass` : the direction of a character
* `joiningType` : how a character joins its neighbours
-/

namespace TunnelSync.Url.Idna

/-- The combining marks. -/
def markRows : List String :=
  ["mlc:1r m2:0 m3:8 m1:v m7n:6 m7b:18 m1:0 m1:1 m1:1 m1:0 m20:a m1c:k mg:0 m2t:6 m2:5 m2:1 m1:3",
   "mz:0 mu:q m2j:a m1m:8 m9:0 mo:3 m1:8 m1:2 m1:4 m17:2 m1n:8 m16:n m1:w m1i:2 m1:h m1:6 ma:1",
   "mt:2 m1k:0 m1:6 m2:1 m2:2 m9:0 ma:1 mq:0 m2:2 m1k:0 m1:4 m4:1 m2:2 m3:0 mu:1 m3:0 mb:2 m1k:0",
   "m1:7 m1:2 m1:2 mk:1 mm:5 m1:2 m1k:0 m1:6 m2:1 m2:2 m7:2 ma:1 mu:0 m1n:4 m3:2 m1:3 m9:0 m14:4",
   "m1j:0 m1:6 m1:2 m1:3 m7:1 mb:1 mt:2 m1k:0 m1:6 m1:2 m1:3 m7:1 mb:1 mf:0 mc:3 m1j:1 m1:6 m1:2",
   "m1:3 m9:0 ma:1 mt:2 m1y:0 m4:5 m1:0 m1:7 mi:1 m1p:0 m2:6 mc:7 m2q:0 m2:8 mb:6 m21:1 mr:0",
   "m1:0 m1:0 m4:1 m1d:1 m1:0 m5:6 m1:2 m1:1 m5:5 m1:3 m1:3 m1:3 m1:3 m1:3 m1:b m1:2 m9:0 m2s:j",
   "mn:3 m4:2 m1:2 m2:6 m3:3 md:b m1:0 ma:3 mjj:2 mqa:3 ms:2 mt:1 mu:1 m1u:t m9:0 m4n:1 my:0",
   "m3a:b m4:b m63:4 m1l:9 m1:s m2:0 m1c:19 m2:b mk:4 m1b:g m12:8 mc:2 mu:c m1k:d m1c:j m48:2",
   "m1:k m4:0 m6:0 m2:2 m5i:1r mk0:w m2da:2 m3x:0 m2o:v mfe:5 m2x:1 mn9w:3 m1:9 mw:1 m28:1 m7k:0",
   "m3:0 m4:0 mn:4 m4:0 m2b:1 m1e:h mq:h md:0 m12:7 mp:c m18:3 m1b:d m10:0 m1v:d mc:0 m8:1 m19:2",
   "m1e:0 m1:2 m2:1 m5:1 m1:0 m15:4 m5:1 m6k:7 m1:1 mfn4:0 mld:f mr1:0 m6a:0 m45:4 m1ae:2 m1:1",
   "m5:3 m14:2 m4:0 m4l:1 mfx:3 m1t:4 m8t:1 m25:5 m1y:a m1d:3 m3e:2 m1h:e m15:0 m2:1 ma:3 m19:a",
   "m7:0 m1p:2 m10:d mg:1 m18:0 mc:2 m1c:d m8:3 m1:1 m2k:b m6:0 m2:0 m4d:b ml:3 m1j:1 m1:6 m2:1",
   "m2:2 m9:0 ma:1 m2:6 m3:4 m1v:8 m1:0 m2:0 m1:3 m1:4 m1:0 me:1 m2a:h mn:0 m29:j m6j:6 m2:8",
   "mr:1 m2a:g m2y:c m2t:e m74:e m6t:5 m1:1 m2:3 m1:0 m1:1 m3x:6 m2:6 m3:0 ms:9 m14:6 m1:3 m8:0",
   "m9:a m1a:f m5i:7 m5j:7 m1:7 m2a:l m1:d m3e:5 m3:0 m1:1 m1:6 m1:0 m1u:4 m1:1 m1:4 m9n:3 m9:1",
   "m1:0 m1c:6 m3:4 mn:0 m44l:0 m6:e m8ug:h m1xc:4 m1n:6 mt4:0 m1:1i m7:3 m29:0 mb:1 mf57:1",
   "m3mp:19 m2:m mf2:4 m3:5 m8:7 m2:6 mu:3 m44:2 m1iz:1i m4:1d m8:0 me:0 mm:4 m1:e m11s:6 m1:g",
   "m2:6 m1:1 m1:4 m2s:0 m4g:6 maf:0 m1p:3 me4:3 m72:1 m6r:0 m2:0 m7:1 m5:0 md6:6 m31:6"]

/-- The runs of combining marks. -/
def markRuns : List Text.Run := Text.runs markRows

/-- Whether a character is a combining mark. -/
def isMark (c : Nat) : Bool := (Text.runOf? markRuns c).isSome

/-- The canonical combining classes other than 0. -/
def combiningRows : List String :=
  ["klc:k:6e k0:0:6g k0:3:64 k0:0:6g k0:0:60 k0:4:64 k0:1:5m k0:3:64 k0:1:5m k0:a:64 k0:4:1",
   "k0:3:64 k0:7:6e k0:0:6o k0:0:6e k0:2:64 k0:2:6e k0:1:64 k1:2:6e k0:3:64 k0:0:6e k0:0:6g",
   "k0:1:64 k0:0:6e k0:0:6h k0:1:6i k0:0:6h k0:1:6i k0:0:6h k0:c:6e k7n:4:6e k7d:0:64 k0:3:6e",
   "k0:0:64 k0:2:6e k0:0:66 k0:0:64 k0:5:6e k0:5:64 k0:1:6e k0:0:64 k0:1:6e k0:0:66 k0:0:6c",
   "k0:0:6e k0:0:a k0:0:b k0:0:c k0:0:d k0:0:e k0:0:f k0:0:g k0:0:h k0:0:i k0:1:j k0:0:k k0:0:l",
   "k0:0:m k1:0:n k1:0:o k0:0:p k1:0:6e k0:0:64 k1:0:i k20:7:6e k0:0:u k0:0:v k0:0:w k1c:0:r",
   "k0:0:s k0:0:t k0:0:u k0:0:v k0:0:w k0:0:x k0:0:y k0:1:6e k0:1:64 k0:4:6e k0:0:64 k0:1:6e",
   "k0:0:64 kg:0:z k2t:6:6e k2:3:6e k0:0:64 k0:0:6e k2:1:6e k1:0:64 k0:1:6e k0:0:64 kz:0:10",
   "ku:0:6e k0:0:64 k0:1:6e k0:0:64 k0:1:6e k0:2:64 k0:0:6e k0:1:64 k0:0:6e k0:0:64 k0:2:6e",
   "k0:0:64 k0:0:6e k0:0:64 k0:0:6e k0:0:64 k0:0:6e k0:0:64 k0:1:6e k4g:6:6e k0:0:64 k0:0:6e",
   "k9:0:64 ko:3:6e k1:8:6e k1:2:6e k1:4:6e k17:2:64 k1o:0:6e k0:2:64 k0:3:6e k16:4:6e k0:4:64",
   "k0:d:6e k1:0:64 k0:1:6e k0:0:64 k0:1:6e k0:0:64 k0:2:6e k0:2:64 k0:0:r k0:0:s k0:0:t k0:2:6e",
   "k0:0:64 k0:1:6e k0:1:64 k0:4:6e k1o:0:7 kg:0:9 k3:0:6e k0:0:64 k0:1:6e k2v:0:7 kg:0:9",
   "k1c:0:6e k1p:0:7 kg:0:9 k32:0:7 kg:0:9 k32:0:7 kg:0:9 k3j:0:9 k32:0:7 kg:0:9 k7:0:2c k0:0:2j",
   "k2t:0:7 kg:0:9 k31:1:9 kg:0:9 k3g:0:9 k31:1:2v k0:0:9 kd:3:2z k30:1:3a k0:0:9 kd:3:3e",
   "k24:1:64 kr:0:64 k1:0:64 k1:0:60 k1j:0:3l k0:0:3m k1:0:3o k5:3:3m k2:0:3m k1:1:6e k0:0:9",
   "k1:1:6e k1q:0:64 k34:0:7 k1:1:9 k2a:0:64 kjz:2:6e kqc:1:9 ku:0:9 k4d:0:9 ka:0:6e k5n:0:6c",
   "k3z:0:66 k0:0:6e k0:0:64 k63:0:6e k0:0:64 k1z:0:9 kk:7:6e k2:0:64 k1c:4:6e k0:5:64 k0:1:6e",
   "k0:0:64 k1:1:64 k0:1:6e k0:1:64 k0:4:6e k0:0:64 k0:3:6e k2t:0:7 kf:0:9 k12:0:6e k0:0:64",
   "k0:6:6e k1i:1:9 k1m:0:7 kb:1:9 k1v:0:7 k48:2:6e k1:0:1 k0:4:64 k0:1:6e k0:3:64 k0:0:6e",
   "k1:6:1 k4:0:64 k6:0:6e k3:1:6e k5i:1:6e k0:0:64 k0:6:6e k0:0:64 k0:1:6e k0:0:6i k0:0:5y",
   "k0:0:64 k0:0:5m k0:10:6e k0:0:6g k0:1:6c k0:0:64 k0:0:62 k0:0:6e k0:0:6h k0:0:64 k0:0:6e",
   "k0:0:64 kk0:1:6e k0:1:1 k0:3:6e k0:2:1 k0:1:6e k4:0:6e k3:1:1 k0:0:6e k0:0:64 k0:0:6e k0:1:1",
   "k0:3:64 k0:0:6e k2da:2:6e k3x:0:9 k2o:v:6e kfe:0:62 k0:0:6c k0:0:6g k0:0:66 k0:1:68 k2x:1:8",
   "kn9w:0:6e k4:9:6e kw:1:6e k28:1:6e k7o:0:9 k11:0:9 k47:0:9 kr:h:6e k1l:2:64 k11:0:9 k2n:0:7",
   "kc:0:9 k6n:0:6e k1:1:6e k0:0:64 k2:1:6e k5:1:6e k1:0:6e k1g:0:9 k6u:0:9 kfn4:0:q kld:6:6e",
   "k0:6:64 k0:1:6e kr1:0:64 k6a:0:64 k45:4:6e k1aq:0:64 k1:0:6e k14:0:6e k0:0:1 k0:0:64 k4:0:9",
   "k4l:0:6e k0:0:64 kfx:3:6e kar:1:6e k49:1:64 k0:2:6e k0:0:64 k0:0:6e k0:3:64 k1d:0:6e k0:0:64",
   "k0:0:6e k0:0:64 k5c:0:9 k15:0:9 ke:0:9 k1l:0:9 k0:0:7 k1x:2:6e k1c:1:9 k1q:0:7 k24:0:9",
   "k9:0:7 k2y:0:9 k0:0:7 k4y:0:7 k0:0:9 k28:1:7 kg:0:9 ko:6:6e k3:4:6e k5p:0:9 k3:0:7 kn:0:6e",
   "k2r:0:9 k0:0:7 k6z:0:9 k0:0:7 k3i:0:9 k3a:0:9 k0:0:7 k37:0:9 k7h:0:9 k0:0:7 k76:1:9 k4:0:7",
   "k4c:0:9 k2b:0:9 ki:0:9 k29:0:9 kbp:0:9 k76:0:7 k1:1:9 k29:0:9 kfa0:4:1 k1n:6:6e kxl:1:6",
   "kf58:0:1 k43q:1:60 k0:2:1 k3:0:6a k0:4:60 k8:7:64 k2:4:6e k0:1:64 ku:3:6e k44:2:6e k2pn:6:6e",
   "k1:g:6e k2:6:6e k1:1:6e k1:4:6e k79:6:6e kaf:0:6e k1p:3:6e k15s:6:64 k31:5:6e k0:0:7"]

/-- The runs of equal combining class. -/
def combiningRuns : List Text.Run := Text.runs combiningRows

/-- The canonical combining class. -/
def combiningClass (c : Nat) : Nat := ((Text.runOf? combiningRuns c).map fun r => Text.number36 r.payload).getD 0

/-- The direction classes: `r` right to left, `l` Arabic letter, `n` Arabic number, `e` European
number, `s` separator and `t` terminator of such numbers, `c` common separator, `m` nonspacing
mark, `b` boundary neutral, `o` other neutral. All other characters run from left to right. -/
def bidiRows : List String :=
  ["b0:8 b5:d o5:1 t0:2 o0:4 s0:0 c0:0 s0:0 c0:1 e0:9 c0:0 o0:5 oq:5 oq:3 b0:0 ox:0 t0:3 o0:1",
   "o1:0 o1:1 o1:0 t1:1 o4:1 o3:0 o3:0 on:0 ov:0 och:1 o7:d o2:5 o6:1 o5:8 o1:g m0:1r m2:0 m3:8",
   "m1:v o5:0 o3k:0 m3w:6 o74:0 o2:1 t0:0 m1:18 r0:0 m0:0 r0:0 m0:1 r0:0 m0:1 r0:0 m0:0 r8:q",
   "r4:5 oh:1 l0:0 t0:1 l0:0 c0:0 l0:0 o0:1 m0:a l0:0 l1:19 m0:k n0:9 t0:0 n0:1 l0:2 m0:0 l0:3",
   "l4:2k m0:6 o1:0 m0:5 l0:1 m0:1 o0:0 m0:3 l0:1 e0:9 l0:j l2:0 m0:0 l0:t m0:q l2:2g m0:a l0:0",
   "re:16 m0:8 r0:1 o0:3 r0:0 m2:0 r0:n m0:3 r0:0 m0:8 r0:0 m0:2 r0:0 m0:4 r2:e r1:o m0:2 r2:0",
   "l1:a l5:v m7:8 l0:15 m0:n m1:v m1j:0 m1:0 m4:7 m4:0 m3:6 ma:1 mt:0 m1m:0 m4:3 m8:0 mk:1 te:1",
   "t7:0 m2:0 m2:1 m1l:0 m4:1 m4:1 m2:2 m3:0 mu:1 m3:0 mb:1 m1l:0 m4:4 m1:1 m4:0 mk:1 td:0 m8:5",
   "m1:0 m1m:0 m2:0 m1:3 m8:0 m7:1 mb:1 mu:0 m1p:0 mc:0 o11:5 t0:0 o0:0 m5:0 m3:0 m1j:0 m1:2",
   "m5:2 m1:3 m7:1 mb:1 ok:6 m2:0 m1m:0 mf:1 mk:1 ms:1 m1l:1 m4:3 m8:0 mk:1 mt:0 m20:0 m7:2 m1:0",
   "m2i:0 m2:6 t4:0 m7:7 m2q:0 m2:8 mb:5 m22:1 mr:0 m1:0 m1:0 o0:3 m1f:1 m1:0 m5:4 m1:0 m1:2",
   "m1:1 m5:5 m1:3 m1:3 m1:3 m1:3 m1:3 m1:b m1:2 m9:0 m2u:3 m1:5 m1:1 m2:1 mp:1 m4:2 mg:3 md:0",
   "m2:1 m6:0 mf:0 mjj:2 o1c:9 o2u:0 oii:1 m39:2 mt:1 mu:1 mu:1 m1v:6 m8:0 m2:a t7:0 m1:0 oi:9",
   "o6:a m3e:1 my:0 m3a:2 m4:1 m9:0 m6:2 o4:0 o3:1 o48:x mn:1 m2:0 m1m:0 m1:6 m1:0 m1:0 m2:7",
   "m6:9 m2:0 m1c:u m1d:3 m1c:0 m1:4 m1:0 m5:0 m14:8 mc:1 mw:3 m2:1 m1:2 m1k:0 m1:1 m3:0 m1:2",
   "m1m:7 m2:1 m48:2 m1:c m1:6 m4:0 m6:0 m3:1 m5i:1r bek:1 o2:0 o1:4 o1:b o3:0 t8:2 o2:0 o2:3",
   "o1:0 o1:4 c0:0 o0:1 o3:c o1:6 t1t:7 t1:n mf:w oj:0 o3:0 ob:0 o2:1 o5:1 o3:0 o1:0 o1:0 o1:0",
   "t4:0 ob:0 o6:3 o5:3 o1o:1 o4:3l s0:0 t0:0 o0:n o2:0 o2:6v o2:a o1x:p o1:40 op:a o4g:cg o1:9e",
   "o74:7f o1:2u o3:2s o1:46 o2:v o1:2w o6d:5 m4:2 o7:6 m3j:0 m2o:v o0:2l oy:p o1:3 o1:2a o7i:0",
   "o1:1 o3:o m9:3 o2:0 o6:0 o5:2 m2h:1 o5:0 o2i:0 o5g:z o5i4:1r oh3k:1i o92:2 m2n:3 o0:0 m0:9",
   "o0:1 mu:1 m28:1 oe:x o2u:0 m3d:0 m3:0 m4:0 mp:1 o1:3 m0:0 tb:1 o1m:3 m24:1 mq:h md:0 m12:7",
   "mp:a m1a:2 m1c:0 m2:3 m2:1 m13:0 m1v:5 m2:1 m2:1 mc:0 m8:0 m1b:0 m1f:0 m1:2 m2:1 m5:1 m1:0",
   "m16:1 m8:0 o37:1 m3d:0 m2:0 m4:0 mfn4:0 l43:w oa3:h l1s:1 l1i:6 o0:0 o19:2 mw:f ol:1 l18:0",
   "oi5:0 o1q:24 o3:c o3:0 m2k:0 m6a:0 e0:q m3e:4 rw5:5 r2:0 r1:17 r1:1 r3:0 r2:m r1:1z r8:8",
   "r1c:i r1:1 r5:w o3:0 r0:p r5:q r12:1j r4:j r2:1a m0:2 m1:1 m5:3 r0:3 r1:2 r1:s m2:2 m4:0",
   "r0:8 r7:8 r7:1r rw:10 m0:1 r4:b r9:1h o3:6 r0:l r2:q r5:p r7:3 rc:6 r28:20 r3b:1e r7:5 l0:z",
   "m0:3 n8:9 r6:f mp:4 r0:n r8:1 n5s:u r1:15 m1:1 r0:0 r2:1 lg:5 l8:8 mx:5 r0:13 l8:l m0:a l0:8",
   "rm:h m0:3 r0:3 r12:r rk:m ma:0 m1i:e ob:j ma:0 m2:1 ma:2 m1d:3 m2:1 m7:0 m1p:2 m10:4 m1:7",
   "m1q:0 mc:1 m1g:8 ma:3 m2:0 m2n:2 m2:0 m1:1 m6:0 m4g:0 m3:7 ml:1 m1l:1 m3:0 m11:6 m3:4 m5f:7",
   "m2:2 m1:0 mn:0 m2c:5 m1:0 m4:1 m1:1 m6m:3 m6:1 m1:1 mr:1 m2d:7 m2:0 m1:1 ov:c m1q:0 m1:0",
   "m2:5 m1:0 m2t:2 m2:3 m1:4 m77:8 m1:1 m74:1 m1:0 m4:0 m40:3 m2:1 m4:0 mw:5 m2:1 m14:5 m2:3",
   "m8:0 m9:5 m2:2 m1a:c m1:1 mba:6 m1:5 m2c:l m2:6 m1:1 m1:1 m3e:5 m3:0 m1:1 m1:6 m1:0 m20:1",
   "m3:0 m1:0 m9n:1 o68:7 t0:3 o0:g meta:4 m1n:6 mt4:0 m1r:3 o27:0 m1:0 mf5k:1 m3mp:19 m2:m",
   "mf4:2 mh:7 m2:6 mu:3 o1n:1 ol:1t m0:2 o0:0 o56:2e m1bd:1i m4:1d m8:0 me:0 mm:4 m1:e m11s:6",
   "m1:g m2:6 m1:1 m1:4 m79:6 maf:0 m1p:3 tf:0 rzk:5g r2:8 m0:6 r23:x m0:6 r0:0 r4:9 r4:1 llt:1v",
   "l24:1o oc2:1 o7i:17 o4:2r oc:e o2:e o1:e o1:10 ol:4 ov:0 o1p:2 o1p:0 o4y:5 o4a:rb o5:f o3:c",
   "o3:37 oc:2g o7:b o4:0 of:b o4:1j o8:9 o6:13 o8:t o2:1 o26:9f oc:d o2:4 o3:4 o3:6 o9:s o3:a",
   "o5:5 oa:9 o6:7 o8:6 o9:42 o1:1i"]

/-- The runs of equal direction. -/
def bidiRuns : List Text.Run := Text.runs bidiRows

/-- The direction of a character; a capital `L` is left to right. -/
def bidiClass (c : Nat) : Char := ((Text.runOf? bidiRuns c).map (·.letter)).getD 'L'

/-- The joining types: `d` on both sides, `l` and `r` on one, `t` transparent. -/
def joiningRows : List String :=
  ["t4t:0 tgi:33 t7n:6 t7b:18 t1:0 t1:1 t1:1 t1:0 t20:a t1:0 d3:0 r1:3 d0:0 r0:0 d0:0 r0:0 d0:4",
   "r0:3 d0:c d1:6 r0:0 d0:1 t0:k de:1 t0:0 r0:2 r1:2 d0:f r0:h d0:11 r0:0 d0:1 r0:8 d0:0 r0:0",
   "d0:0 r0:0 d0:1 r0:1 r1:0 t0:6 t2:5 t2:1 t1:3 r0:1 da:2 d2:0 tf:0 r0:0 t0:0 d0:2 r0:4 d0:3",
   "r0:0 d0:8 r0:0 d0:0 r0:0 d0:0 r0:0 d0:1 r0:0 t0:q r2:0 d0:a r0:2 d0:e r0:1 d0:3 r0:0 d0:0",
   "r0:1 d0:2 r0:1 d0:5 t12:a dp:w t0:8 t9:0 to:3 t1:8 t1:2 t1:4 ri:0 d0:4 r0:1 d0:0 r0:0 d0:9",
   "r0:0 d0:0 r0:2 t0:2 d4:0 d1:3 r1:0 d0:0 r0:1 r5:i d3:0 d2:4 r0:0 d0:0 t7:8 d0:9 r0:2 r1:0",
   "d0:1 r0:1 d0:5 r0:0 d0:e t1:n t1:v t1j:0 t1:0 t4:7 t4:0 t3:6 ta:1 tt:0 t1m:0 t4:3 t8:0 tk:1",
   "tq:0 t2:1 t1l:0 t4:1 t4:1 t2:2 t3:0 tu:1 t3:0 tb:1 t1l:0 t4:4 t1:1 t4:0 tk:1 tm:5 t1:0 t1m:0",
   "t2:0 t1:3 t8:0 t7:1 tb:1 tu:0 t1p:0 tc:0 t1e:0 t3:0 t1j:0 t1:2 t5:2 t1:3 t7:1 tb:1 tt:0",
   "t1m:0 t2:0 t6:0 t5:1 tk:1 ts:1 t1l:1 t4:3 t8:0 tk:1 tt:0 t20:0 t7:2 t1:0 t2i:0 t2:6 tc:7",
   "t2q:0 t2:8 tb:6 t21:1 tr:0 t1:0 t1:0 t1j:d t1:4 t1:1 t5:a t1:z t9:0 t2u:3 t1:5 t1:1 t2:1",
   "tp:1 t4:2 tg:3 td:0 t2:1 t6:0 tf:0 tjj:2 tqa:2 tt:1 tu:1 tu:1 t1s:1 t1:6 t8:0 t2:a t9:0",
   "d15:0 t3:2 t1:0 dg:2g tc:1 d0:x t0:0 d0:0 t39:2 t4:1 t9:0 t6:2 t63:1 t2:0 t1m:0 t1:6 t1:0",
   "t1:0 t2:7 t6:9 t2:0 t1c:19 t2:b tk:3 t1c:0 t1:4 t1:0 t5:0 t14:8 tc:1 tw:3 t2:1 t1:2 t1k:0",
   "t1:1 t3:0 t1:2 t1m:7 t2:1 t48:2 t1:c t1:6 t4:0 t6:0 t3:1 t5i:1r tej:0 t2:1 tq:4 t1d:4 t5:5",
   "t2o:w t2da:2 t3x:0 t2o:v tfe:3 t2z:1 tn9w:3 t1:9 tw:1 t28:1 t7k:0 t3:0 t4:0 tp:1 t5:0 dj:1d",
   "l0:0 t29:1 tq:h td:0 t12:7 tp:a t1a:2 t1c:0 t2:3 t2:1 t13:0 t1v:5 t2:1 t2:1 tc:0 t8:0 t1b:0",
   "t1f:0 t1:2 t2:1 t5:1 t1:0 t16:1 t8:0 t6m:0 t2:0 t4:0 tfn4:0 tkh:f tg:f t5r:0 t6x:2 te9:0",
   "t6a:0 t45:4 t1ae:2 t1:1 t5:3 t14:2 t4:0 d3k:4 r0:0 r1:0 r1:1 l2:0 r0:4 d0:3 l0:0 d0:4 r0:0",
   "d0:2 r0:0 r2:0 t0:1 d4:3 r0:0 d40:0 r0:0 d0:0 r0:2 d0:2 r0:0 d0:1 r0:0 d0:0 r0:1 d0:0 r0:0",
   "rn:3 d0:1 l9d:0 d0:w r0:0 d0:0 t0:3 t1t:4 t8t:1 rl:0 d0:1 d1:1 t1e:5 d1c:2 r0:0 d0:g t1:a",
   "d0:2 r0:0 dr:3 r0:1 d0:b t0:3 d16:0 d1:1 r0:2 d1:0 r0:1 d0:1 r0:0 d0:1 d1:0 r0:1 d0:0 r4:0",
   "d0:0 l0:0 t1h:0 t1i:e t15:0 t2:1 ta:2 t1d:3 t2:1 t7:0 t1p:2 t10:4 t1:7 t1q:0 tc:1 t1g:8 ta:3",
   "t2:0 t2n:2 t2:0 t1:1 t6:0 t2:0 t4d:0 t3:7 tl:1 t1l:1 t3:0 t11:6 t3:4 t1y:5 td:0 t1:0 t1:0",
   "te:1 t2d:7 t2:2 t1:0 tn:0 t2c:5 t1:0 t4:1 t1:1 t6m:3 t6:1 t1:1 tr:1 t2d:7 t2:0 t1:1 t2y:0",
   "t1:0 t2:5 t1:0 t2t:0 t1:0 t2:3 t1:4 t77:8 t1:1 t74:1 t1:0 t4:0 t40:3 t2:1 t4:0 tw:9 t14:5",
   "t2:3 t8:0 t9:5 t2:2 t1a:c t1:1 t5i:0 t1:2 t1:0 t5l:6 t1:5 t1:0 t2a:l t2:6 t1:1 t1:1 t3e:5",
   "t3:0 t1:1 t1:6 t1:0 t20:1 t3:0 t1:0 t9n:1 tb:1 t1g:4 t5:0 t1:0 tn:0 t445:g t6:e t8ug:b t3:2",
   "t1xc:4 t1n:6 tt4:0 t1r:3 t29:0 tf5k:1 t1:3 t3mk:19 t2:m tf4:2 t9:f t2:6 tu:3 t44:2 t1iz:1i",
   "t4:1d t8:0 te:0 tm:4 t1:e t11s:6 t1:g t2:6 t1:1 t1:4 t2s:0 t4g:6 taf:0 t1p:3 te4:3 t72:1",
   "t6r:0 t2:0 t7:1 t5:0 td6:6 d15:1v t0:7 tgzat:0 tu:2n t3k:6n"]

/-- The runs of equal joining type. -/
def joiningRuns : List Text.Run := Text.runs joiningRows

/-- The joining type of a character; `u` for one that does not join. -/
def joiningType (c : Nat) : Char := ((Text.runOf? joiningRuns c).map (·.letter)).getD 'u'

/-- The compositions, grouped by the second character: a word has the second character, and for each
first character that character and the composition. -/
def compositionRows : List String :=
  ["lc:1t+5c,1x+5k,21+5o,26+e0,27+5u,2d+61,2f+60w,2h+642,2p+68,2t+6g,2x+6k",
   "lc:32+e1,33+6q,39+6x,3b+60x,3d+643,4o+6b1,5e+61y,5m+62o,5w+636,64+d7",
   "lc:6a+61z,6i+62p,6s+637,70+d8,76+628,77+629,7m+5xw,7n+5xx,98+5zk,99+5zl",
   "lc:bk+63g,bl+63h,bz+63u,c0+63v,pd+69m,ph+6a0,pj+6a2,pl+6ai,pr+6bc,px+6ay",
   "lc:q1+6be,q9+67k,qd+67m,qf+67o,qh+67q,qn+67s,qt+67u,qx+67w,qy+6aa,qz+6aq",
   "lc:t1+sg,t4+st,tx+uo,u0+v1,64g+64i,64h+64j,64o+64q,64p+64r,64w+64y",
   "lc:64x+64z,654+656,655+657,65c+65e,65d+65f,65k+65m,65l+65n,65s+65u",
   "lc:65t+65v,660+662,661+663,668+66a,669+66b,66g+66i,66h+66j,66o+66q",
   "lc:66p+66r,66x+66z,674+676,675+677,67c+67e,67d+67f,69r+6a5,6bi+6al",
   "ld:1t+5d,1v+7a,1x+5l,1z+dw,21+5p,23+5yo,24+8p,25+5z2,26+8z,27+5v,28+5zo",
   "ld:2a+9g,2b+9m,2d+62,2f+60y,2h+65,2i+ah,2p+69,2r+7b,2t+6h,2v+dx,2x+6l",
   "ld:2z+5yp,30+8q,31+5z3,32+90,33+6r,34+5zp,36+9h,37+9n,39+6y,3b+60z,3d+71",
   "ld:3e+ai,4o+p1,5e+61w,5h+e2,5i+e4,5j+5xk,5m+62m,5r+5ym,5w+634,5x+5zg",
   "ld:60+e6,64+d3,6a+61x,6d+e3,6e+e5,6f+5xl,6i+62n,6n+5yn,6s+635,6t+5zh",
   "ld:6w+e7,70+d4,76+626,77+627,7m+5xy,7n+5xz,98+5zm,99+5zn,a0+60o,a1+60p",
   "ld:bk+63e,bl+63f,bz+63s,c0+63t,pd+p2,ph+p4,pj+p5,pl+p6,pr+p8,px+pa,q1+pb",
   "ld:q9+q4,qd+q5,qf+q6,qh+q7,qn+r0,qt+r1,qx+r2,qy+pc,qz+q8,r6+r7,sz+sj",
   "ld:t6+ss,tv+ur,u2+v0,64g+64k,64h+64l,64o+64s,64p+64t,64w+650,64x+651",
   "ld:654+658,655+659,65c+65g,65d+65h,65k+65o,65l+65p,65s+65w,65t+65x",
   "ld:660+664,661+665,668+66c,669+66d,66g+66k,66h+66l,66o+66s,66p+66t",
   "ld:66x+671,674+678,675+679,67c+67g,67d+67h,69r+6a6,6bi+6am",
   "le:1t+5e,1v+7c,1x+5m,1z+7w,20+84,21+5q,22+8k,27+5w,2b+9o,2d+63,2f+ac",
   "le:2h+ae,2i+61c,2p+6a,2r+7d,2t+6i,2v+7x,2w+85,2x+6m,2y+8l,33+6s,37+9p",
   "le:39+6z,3b+ad,3d+af,3e+61d,61s+624,61t+625,62g+62u,62h+62v,630+63c le:631+63d",
   "lf:1t+5f,1x+62k,21+88,26+5t,27+5x,2d+a0,2e+60s,2h+648,2p+6b,2t+62l,2x+89",
   "lf:32+6p,33+6t,39+a1,3a+60t,3d+649,5e+622,5m+62s,5w+63a,6a+623,6i+62t",
   "lf:6s+63b,76+62c,77+62d,bk+63k,bl+63l,bz+63y,c0+63z",
   "lg:1t+74,1x+7m,1z+5y8,21+8a,27+98,2d+a2,2h+fm,2p+75,2t+7n,2v+5y9,2x+8b",
   "lg:33+99,39+a3,3d+fn,5g+da,5i+de,5x+fg,5y+fe,64+d1,6c+db,6e+df,6t+fh",
   "lg:6u+ff,70+d2,dm+do,dn+dp,fa+dc,fb+dd,fi+fk,fj+fl,pd+69l,pl+6ah,px+6ax",
   "lg:q9+69d,qh+6a9,qt+6ap,t4+yq,tf+z2,u0+yr,ub+z3,5yu+5yw,5yv+5yx,5zu+5zw lg:5zv+5zx",
   "li:1t+76,1x+7o,1z+7y,21+8c,27+9a,2d+a4,2p+77,2t+7p,2v+7z,2x+8d,33+9b",
   "li:39+a5,fc+5y4,fd+5y5,pd+69k,pl+6ag,px+6aw,q9+69c,qh+6a8,qt+6ao,sw+y8",
   "li:t1+ye,t2+xt,t4+t5,tf+su,ts+y9,tx+yf,ty+xu,u0+u1,ub+v2,61s+62e,61t+62f",
   "lj:1t+fa,1u+5xe,1v+7e,1w+5xm,1x+7q,1y+5y6,1z+80,20+5ya,21+8g,25+5z4",
   "lj:26+5z8,27+fi,28+5zq,2a+5zs,2b+600,2c+60a,2f+612,2g+616,2h+61a,2i+aj",
   "lj:2p+fb,2q+5xf,2r+7f,2s+5xn,2t+7r,2u+5y7,2v+81,2w+5yb,31+5z5,32+5z9",
   "lj:33+fj,34+5zr,36+5zt,37+601,38+60b,3b+613,3c+617,3d+61b,3e+ak,9m+604",
   "lj:9n+605,9s+606,9t+607,an+61n,602+608,603+609,1fpu+1fpl,1fq2+1fqc",
   "lk:1t+5g,1x+5n,20+5ye,21+5r,27+5y,2d+64,2f+610,2g+618,2h+ag,2p+6c,2t+6j",
   "lk:2w+5yf,2x+6n,33+6u,38+61j,39+70,3b+611,3c+619,3d+73,5x+5zi,6t+5zj",
   "lk:a2+60q,a3+60r,pl+q2,px+q3,qh+qy,qt+qz,r6+r8,sm+sn,sw+ya,t1+sh,t2+yk",
   "lk:t3+ym,t4+ys,ta+yu,tf+z4,tj+z8,tn+zc,tp+z0,ts+yb,tx+up,ty+yl,tz+yn",
   "lk:u0+yt,u6+yv,ub+z5,uf+z9,uj+zd,ul+z1,uu+uv,yg+yi,yh+yj,yw+yy,yx+yz",
   "ll:1t+61u,1x+62i,21+62w,27+632,2d+63q,2h+646,2p+61v,2t+62j,2x+62x,33+633",
   "ll:39+63r,3d+647,5e+620,5m+62q,5w+638,6a+621,6i+62r,6s+639,76+62a,77+62b",
   "ll:bk+63i,bl+63j,bz+63w,c0+63x lm:1t+5h,2d+a6,2p+6d,39+a7,3b+61k,3d+61l",
   "ln:27+9c,2d+a8,33+9d,39+a9,tf+z6,ub+z7",
   "lo:1t+ct,1v+7g,1w+7i,1x+7u,1z+di,20+f2,21+cv,23+dk,24+8t,26+93,27+cx",
   "lo:2a+9k,2b+9s,2c+9w,2d+cz,2i+al,2p+cu,2r+7h,2s+7j,2t+7v,2v+dj,2w+f3",
   "lo:2x+cw,2y+ds,2z+dl,30+8u,32+94,33+cy,36+9l,37+9t,38+9x,39+d0,3e+am",
   "lo:64+d5,70+d6,c7+dq,ia+dr",
   "lr:1t+e8,1x+ec,21+eg,27+ek,2a+eo,2d+es,2p+e9,2t+ed,2x+eh,33+el,36+ep lr:39+et,vo+vq,vp+vr",
   "lt:1t+ea,1x+ee,21+ei,27+em,2a+eq,2d+eu,2p+eb,2t+ef,2x+ej,33+en,36+er lt:39+ev",
   "lv:pd+64o,ph+654,pj+65k,pl+660,pr+66g,q1+67c,q9+64g,qd+64w,qf+65c,qh+65s",
   "lv:qn+668,qp+6as,qt+66o,qx+674",
   "lw:pd+64p,ph+655,pj+65l,pl+661,pr+66h,pt+6b0,px+66x,q1+67d,q9+64h,qd+64x",
   "lw:qf+65d,qh+65t,qn+669,qp+6at,qt+66p,qx+675 m3:27+bk,2d+bz,33+bl,39+c0",
   "mb:1t+61s,1u+5xg,1w+5xo,1x+62g,20+5yc,21+62y,23+5yq,24+5yu,25+5z6,26+5za",
   "mb:27+630,2a+5zu,2b+602,2c+60c,2d+63o,2e+60u,2f+614,2h+644,2i+61e,2p+61t",
   "mb:2q+5xh,2s+5xp,2t+62h,2w+5yd,2x+62z,2z+5yr,30+5yv,31+5z7,32+5zb,33+631",
   "mb:36+5zv,37+603,38+60d,39+63p,3a+60v,3b+615,3d+645,3e+61f,bk+63m,bl+63n mb:bz+640,c0+641",
   "mc:2d+60i,39+60j md:1t+5xc,2p+5xd me:2b+ew,2c+ey,37+ex,38+ez",
   "mf:1v+5j,1w+5xs,1x+fc,1z+82,20+5yg,23+8m,24+8r,26+91,2a+9i,2b+9q,2c+9u",
   "mf:2r+6f,2s+5xt,2t+fd,2v+83,2w+5yh,2z+8n,30+8s,32+92,36+9j,37+9r,38+9v",
   "mg:1t+78,1x+7s,21+8e,27+dm,2d+aa,2p+79,2t+7t,2x+8f,33+dn,39+ab",
   "ml:1w+5xu,1x+5y0,24+5z0,26+5ze,2c+60g,2d+60m,2s+5xv,2t+5y1,30+5z1,32+5zf ml:38+60h,39+60n",
   "mm:20+5yi,2w+5yj mo:1x+5y2,21+5yk,2d+60k,2t+5y3,2x+5yl,39+60l",
   "mp:1u+5xi,1w+5xq,23+5ys,24+5yy,26+5zc,2a+5zy,2c+60e,2i+61g,2q+5xj,2s+5xr",
   "mp:2w+61i,2z+5yt,30+5yz,32+5zd,36+5zz,38+60f,3e+61h",
   "mw:1o+6su,1p+6sg,1q+6sv,6mo+6my,6mq+6mz,6ms+6ni,6og+6od,6oi+6of,6ok+6oe",
   "mw:6pv+6pw,6q0+6q1,6q3+6q4,6qr+6qs,6qt+6qu,6rg+6rl,6rn+6ro,6rp+6rr",
   "mw:6rs+6rt,6rx+6st,6sh+6si,6sk+6sw,6sl+6sx,6sy+6t0,6sz+6t1,6t2+6t4",
   "mw:6t3+6t5,6t6+6tc,6t7+6td,6t8+6w0,6t9+6w1,6te+6tg,6tf+6th,6ti+6tk",
   "mw:6tj+6tl,6tt+6w2,6tu+6w3,6ua+6uk,6ug+6ul,6uh+6um,6uj+6un,6uq+6wa",
   "mw:6ur+6wb,6us+6wc,6ut+6wd",
   "n6:4o+69t,q9+69i,qf+69y,qh+6ae,qt+6au,qx+6ba,qy+6af,qz+6av,64g+64m",
   "n6:64h+64n,64o+64u,64p+64v,65c+65i,65d+65j,65k+65q,65l+65r,65s+65y",
   "n6:65t+65z,660+666,661+667,66o+66u,66p+66v,66x+673,674+67a,675+67b",
   "n6:67c+67i,67d+67j,69r+6a7,6bi+6an",
   "n9:pd+69o,pj+6a4,q1+6bg,q4+69g,q6+69w,q9+69f,qf+69v,qx+6b7,r2+6b8",
   "n9:64g+680,64h+681,64i+682,64j+683,64k+684,64l+685,64m+686,64n+687",
   "n9:64o+688,64p+689,64q+68a,64r+68b,64s+68c,64t+68d,64u+68e,64v+68f",
   "n9:65c+68g,65d+68h,65e+68i,65f+68j,65g+68k,65h+68l,65i+68m,65j+68n",
   "n9:65k+68o,65l+68p,65m+68q,65n+68r,65o+68s,65p+68t,65q+68u,65r+68v",
   "n9:674+68w,675+68x,676+68y,677+68z,678+690,679+691,67a+692,67b+693",
   "n9:67c+694,67d+695,67e+696,67f+697,67g+698,67h+699,67i+69a,67j+69b",
   "n9:67k+69e,67o+69u,67w+6b6,69i+69j,69y+69z,6ba+6bb 18z:17r+17m",
   "190:17r+17n,18o+17o,18q+17q,1c1+1c2,1ci+1cj,1cl+1c0 191:17r+17p 1to:1t4+1t5,1tc+1td,1tf+1tg",
   "1xa:1xj+1xn 1xz:1xj+1xo 27y:287+28b 28m:287+288 28n:287+28c 2bi:2bq+2bu,2br+2bv",
   "2c7:2aa+2ac,2bq+2bw 2fq:2fa+2fc 2iq:2iu+2iy 2j9:2in+2io,2iu+2iv,2iy+2iz 2ja:2iu+2iw",
   "2m6:2me+2mi,2mf+2mj 2mv:2me+2mk 2q2:2qh+2qi,2qk+2ql 2q7:2qh+2qk 2qn:2qh+2qm 372:36t+36u",
   "5dh:5c5+5c6,5c7+5c8,5c9+5ca,5cb+5cc,5cd+5ce,5ch+5ci,5dm+5dn,5do+5dp",
   "5dh:5dq+5ds,5dr+5dt,5du+5dv",
   "9ll:9ja+9lg,9jf+9jg,9jh+9ji,9jj+9jk,9jl+9jm,9jn+9jo,9jp+9jq,9jr+9js",
   "9ll:9jt+9ju,9jv+9jw,9jx+9jy,9jz+9k0,9k1+9k2,9k4+9k5,9k6+9k7,9k8+9k9",
   "9ll:9kf+9kg,9ki+9kj,9kl+9km,9ko+9kp,9kr+9ks,9lp+9lq,9ly+9o4,9m3+9m4",
   "9ll:9m5+9m6,9m7+9m8,9m9+9ma,9mb+9mc,9md+9me,9mf+9mg,9mh+9mi,9mj+9mk",
   "9ll:9ml+9mm,9mn+9mo,9mp+9mq,9ms+9mt,9mu+9mv,9mw+9mx,9n3+9n4,9n6+9n7",
   "9ll:9n9+9na,9nc+9nd,9nf+9ng,9nz+9o7,9o0+9o8,9o1+9o9,9o2+9oa,9od+9oe",
   "9lm:9kf+9kh,9ki+9kk,9kl+9kn,9ko+9kq,9kr+9kt,9n3+9n5,9n6+9n8,9n9+9nb 9lm:9nc+9ne,9nf+9nh",
   "1hve:1huh+1hui,1huj+1huk,1hut+1huz 1hyf:1hyp+1hym,1hyq+1hyn 1ida:1idj+1idn 1idz:1idj+1ido",
   "1igo:1igy+1ih3 1igr:1if8+1if9 1igy:1iff+1ifi,1igy+1ih1 1ih5:1if6+1if7,1ifk+1ifl,1igy+1ih4",
   "1ink:1int+1inw 1inu:1int+1inv 1inx:1int+1iny 1iun:1iuw+1iuy,1iux+1iuz 1jjk:1jjp+1jjs",
   "1xr2:1xr2+1xr5 1xr3:1xr2+1xr7,1xr5+1xra,1xr6+1xrb,1xrd+1xr8 1xr4:1xr2+1xr9,1xr5+1xrc",
   "1xrd:1xr2+1xr6 206f:206b+206h,206f+206g,206h+206i"]

/-- First character, second character and composition. -/
def compositions : List (Nat × Nat × Nat) :=
  (Text.tableWords compositionRows).flatMap fun word =>
    let parts := Text.fields ':' word
    let second := Text.number36 (parts.getD 0 [])
    (Text.fields ',' (parts.getD 1 [])).map fun pair =>
      let ns := Text.numbers36 pair
      (ns.getD 0 0, second, ns.getD 1 0)

end TunnelSync.Url.Idna
