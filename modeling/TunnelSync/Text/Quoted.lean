import TunnelSync.Text.Runs

/-!
# Quoted text

`Text.quoted` shows a text in double quotes with escapes for what would not be seen: quotes and
backslashes, controls, blanks other than the space, characters without a shape of their own, and
marks that would combine with what stands before them.
-/

namespace TunnelSync.Text

/-- The characters beyond ASCII that are escaped. -/
def unseenRows : List String :=
  ["x3j:x xc:0 xgi:33 x8:1 x6:3 x7:0 x1:0 xk:0 x68:6 x4m:0 x12:1 x1e:1 x3:19 x1:0 x1:1 x1:1 x1:8",
   "xr:3 x6:g xa:a x1:0 x1a:k xg:0 x2t:7 x1:5 x2:1 x1:3 xw:1 x1:0 xu:s x2h:a x1:d x17:8 x7:2",
   "xo:3 x1:8 x1:2 x1:6 xf:0 xp:4 x1:0 xb:4 xw:f x16:1k x1j:0 x1:0 x4:7 x4:0 x3:6 xa:1 xt:0 x2:0",
   "x8:1 x2:1 xm:0 x7:0 x1:2 x4:2 x1:0 x2:5 x2:1 x2:0 x1:c x2:0 x3:3 xo:4 x1:0 x6:3 x2:1 xm:0",
   "x7:0 x2:0 x2:0 x2:3 x3:n x4:0 x1:6 xa:1 x3:0 x1:b x1:0 x9:0 x3:0 xm:0 x7:0 x2:0 x5:2 x4:7",
   "x1:0 x2:2 x1:e x2:3 xc:6 x1:7 x2:0 x8:1 x2:1 xm:0 x7:0 x2:0 x5:2 x1:1 x1:5 x2:1 x2:e x2:0",
   "x3:3 xi:a x1:0 x6:2 x3:0 x4:2 x2:0 x1:0 x2:2 x2:2 x3:2 xc:4 x1:0 x2:2 x3:0 x3:2 x1:k xl:5",
   "x3:0 x8:0 x3:0 xn:0 xg:2 x1:2 x4:i x3:0 x2:1 x2:3 xa:6 xa:0 xb:0 x3:0 xn:0 xa:0 x5:2 x2:1",
   "x1:0 x2:m x3:0 x2:3 xa:0 x3:d xb:0 x3:0 x15:1 x1:0 x2:4 x3:0 x3:0 x2:3 x3:0 xa:3 xq:1 x2:0",
   "xi:2 xo:0 x9:0 x1:1 x7:8 x2:5 x7:6 xa:1 x3:b x1c:0 x2:a x8:7 xd:10 x2:0 x1:0 x5:0 xo:0 x1:0",
   "xa:0 x2:8 x1:1 x5:0 x1:8 xa:1 x4:v xo:1 xr:0 x1:0 x1:0 xe:0 x10:h x1:4 x1:1 x5:1c x8:0 x6:0",
   "xd:10 x19:3 x1:5 x1:1 x2:1 xp:1 x4:2 xg:3 xd:0 x2:1 x6:0 xf:0 x14:0 x1:4 x1:1 xah:0 x4:1",
   "x7:0 x1:0 x4:1 x15:0 x4:1 xx:0 x4:1 x7:0 x1:0 x4:1 xf:0 x1l:0 x4:1 x1v:4 xt:2 xq:5 x2e:1",
   "x6:1 xhs:0 xs:2 x2h:6 xi:c xj:2 x2:8 xi:d xd:0 x3:e x1g:1 x1:6 x8:0 x2:a x9:2 xa:5 xa:5 xb:4",
   "xa:5 x2h:6 x5:1 xy:0 x1:4 x1y:9 xv:3 x4:1 x3:3 x2:0 x6:6 x1:2 x16:1 x5:a x18:3 xq:5 xb:2",
   "x1l:1 x2:2 x1k:0 x1:8 x1:0 x2:7 x6:c xa:5 xa:5 xe:2d x1c:9 x4:2 x8:0 xt:8 xc:1 xw:3 x2:5",
   "x1k:0 x1:1 x3:0 x1:c x1c:7 x2:4 xf:2 x1q:4 x17:1 xb:a x1:c x1:6 x4:0 x6:0 x3:1 x1:4 x5c:1r",
   "x7q:1 x6:1 x12:1 x6:1 x8:0 x1:0 x1:0 x1:0 xv:1 x1h:0 xf:0 xe:1 x6:0 xj:1 x3:0 x9:g xo:7",
   "x1b:g x2:1 xr:0 xd:2 xy:1p x3w:3 xii:l xb:k x1ec:1 xah:2 x2:4 x19:0 x1:4 x1:1 x1k:6 x2:e",
   "xn:8 x7:0 x7:0 x7:0 x7:0 x7:0 x7:0 x7:0 x7:w x2m:x xq:0 x2h:b x5y:p xg:0 x15:5 xg:0 x2e:3",
   "x2t:4 x17:0 x2m:0 x2e:8 x1c:0 xmlp:2 x1j:8 x9o:j x1b:3 x1:9 xw:1 x28:1 x6:7 x65:j xh:0 x3:0",
   "x4:0 xp:1 x5:3 xa:5 x1k:7 x1w:9 xc:n xd:0 x12:7 xp:a x1:b xu:5 x1c:0 x2:3 x2:1 x2:0 xd:0",
   "xb:3 x7:0 xp:0 x15:5 x2:1 x2:a x3:0 x8:0 x1:1 xa:1 xw:0 x1f:0 x1:2 x2:1 x5:1 x1:0 x1:n xh:1",
   "x8:a x6:1 x6:1 x6:8 x7:0 x7:0 x1o:3 x39:0 x2:0 x4:2 xa:5 x8mc:b xn:3 x1d:6ir xa6:1 x2y:11",
   "x7:b x5:4 x1:0 xo:0 x5:0 x1:0 x2:0 x2:0 xi2:v xg:f xa:l xz:0 xj:0 x4:3 x5:0 x3r:3 x4d:1 xv:2",
   "x6:1 x6:1 x6:1 x3:2 x7:0 x7:c x2:1 xc:0 xq:0 xj:0 x2:0 xf:1 xe:x x3f:4 x3:3 x19:2 x2g:0 xd:2",
   "x1:1a x19:3m xt:2 x1d:f xr:3 x10:8 xu:4 x12:9 xu:0 x11:3 xe:15 x4e:1 xa:5 x10:3 x10:3 x14:7",
   "x1g:a xc:0 xf:0 x7:0 x2:0 xb:0 xf:0 x7:0 x2:2 x1g:b x8n:8 xm:9 x8:n x6:0 x16:0 x9:1w x6:1",
   "x1:0 x18:0 x2:2 x1:1 xn:0 x20:7 x9:1b xj:0 x2:4 xx:2 xr:4 xr:11 x1k:3 xk:1 x1b:e x4:0 x3:0",
   "xt:9 x9:6 x9:6 x1s:v x11:5 xc:8 x1i:2 xt:1 xr:4 xq:6 x4:b x7:27 x21:1i x1f:c x1f:6 x16:b",
   "xa:5 x12:7 xo:7 x2:5r xv:0 x16:2 x1:1 x2:f x6:7 x9:12 x14:7 xm:a x9:l xi:3 x4:11 xs:j xn:8",
   "x1:0 x1i:e x7:3 xu:0 x2:1 x1:b x1d:3 x2:1 x2:0 x4:d xp:6 xa:8 x10:4 x1:8 xi:7 xz:0 x3:a",
   "x1g:8 x1:0 x8:3 x2:0 xg:0 xk:a xi:0 xs:2 x2:3 x6:0 x2:1q x7:0 x1:0 x4:0 xf:0 xb:5 x1b:0 x3:c",
   "xa:7 x2:0 x8:1 x2:1 xm:0 x7:0 x2:0 x5:2 x1:0 x1:0 x4:1 x2:1 x2:2 x1:b x7:r xa:0 x1:1 x1:0",
   "x12:0 x1:0 x2:e x1:0 x2:2 x1:0 x3:0 x2:12 x1k:7 x2:2 x1:0 xl:0 x1:0 x3:t x1c:0 x2:5 x1:0",
   "x2:0 x1:1 x1:1 x4:7 xa:4l x1b:0 x2:5 x4:1 x1:1 xr:z x1f:7 x2:0 x1:1 x4:a xa:5 xd:i x17:0",
   "x1:0 x2:7 x2:5 xa:5 xk:r xr:2 x1:0 x2:3 x1:8 xn:54 x1b:8 x1:1 x1:2r x2b:b x8:1 x1:1 x8:0",
   "x2:0 xo:0 x5:0 x2:5 x4:0 x3:8 xa:1x x8:1 x16:7 x4:0 x4:q x1:9 x14:5 x2:3 x8:8 x1:5 x2:2",
   "x1a:c x1:1 x9:c x21:6 xa:2e x1:2 x1:0 x1:2f xy:d xa:5 x9:0 x12:d x1:0 x6:9 xt:2 xw:o x1:6",
   "x1:1 x1:22 x7:0 x2:0 x12:k x1:8 xa:5 x6:0 x2:0 x11:3 x2:0 x1:0 x1:6 xa:5 x18:3 xa:6t xj:1",
   "x4:8 xf:0 x10:7 x2:2 xn:2d x1:e x1e:c xpn:2t x33:0 x5:a x5g:217 x2r:c xts:g x6:o x32z:4",
   "xg7:5a0 xu:b x3:2 xa:1c5 xft:6 xv:0 xa:3 x29:0 xa:5 xu:6 x1:9 x1c:6 xf:9 xa:0 x7:0 xl:4",
   "xj:bz x1m:5h x2j:4 xp:1 xp:17 x23:4 x1k:a xd:1r x4:d x5:8 x5p2:14 xw:2o x37:6po x4:0 x7:0",
   "x2:0 x83:e x1:s x3:1 x1:d x4:7 xb0:1s3 x2z:4 xd:2 x9:6 xa:1 x1:1 x1:31b x71:2 xc4:5 xn:e",
   "xh:2m x38:1n x6u:9 x13:1 x1o:4 x3:l x2:6 xu:3 x1p:k x1u:2 x1:3d xk:b xk:b x2f:8 xp:3q x2d:0",
   "x1z:0 x2:1 x1:1 x2:1 x4:0 xc:0 x1:0 x7:0 x1t:0 x4:1 x8:0 x7:0 xs:0 x4:0 x5:0 x1:2 x7:0 x9g:1",
   "x84:1 xfm:1i x4:1d x8:0 xe:0 x7:vn xv:5 x6:78 x1q:41 x19:9 x7:1 xa:3 x2:8v xu:h x18:3 xa:4",
   "x1:cv xs:3 xa:5x xu:1 xb:3 x1:5b xv:0 x3:0 x2:0 x7:1 x5:8 x2:67 x7:0 x4:0 x2:0 xf:0 x5h:1",
   "x9:1b x1w:6 x1:3 xa:3 x2:ls x1w:23 x1p:5d x4:0 xr:0 x2:0 x1:1 x1:0 xa:0 x4:0 x1:0 x1:5 x1:3",
   "x1:0 x1:0 x1:0 x3:0 x2:0 x1:1 x1:0 x1:0 x1:0 x1:0 x1:0 x2:0 x1:1 x4:0 x7:0 x4:0 x4:0 x1:0",
   "xa:0 xh:4 x3:0 x5:0 xh:1f x2:7h x18:3 x2s:b xf:1 xf:0 xf:0 x11:9 x4u:1j xt:c x18:3 x9:6 x2:d",
   "x6:49 xrd:2 xh:2 xd:2 x62:5 xc:3 x1:e xc:3 x1k:7 xa:5 x14:7 xu:1 xc:3 x2:d x9:12 x9k:7 xe:1",
   "xd:2 xb:2 x1l:0 x1:3 xg:1 xc:3 xa:6 x43:0 x2v:sk xwyo:v x3dq:1 x4ge:1 x5rl:e xha:1wh xf2:15t",
   "x3t7:4 x6ju:jdl1"]

/-- The runs of characters beyond ASCII that are escaped. -/
def unseenRuns : List Run := runs unseenRows

/-- A character in quotes. -/
def quotedChar (c : Char) : Text :=
  if c == '"' || c == '\\' then ['\\', c]
  else if c == '\n' then ['\\', 'n']
  else if c == '\r' then ['\\', 'r']
  else if c == '\t' then ['\\', 't']
  else if c.toNat == 0 then ['\\', '0']
  else if c.toNat < 0x20 || (0x7F ≤ c.toNat && (runOf? unseenRuns c.toNat).isSome) then
    "\\u\x7b" ++ Nat.toDigits 16 c.toNat ++ ['\x7d']
  else [c]

/-- The text in double quotes. -/
def quoted (t : Text) : Text := '"' :: t.flatMap quotedChar ++ ['"']

end TunnelSync.Text
