import TunnelSync.Text.Runs

/-!
# The mapping of characters in domain names

The compatibility mapping of the Unicode standard for internationalised domain names, for the
characters beyond ASCII. A character in no run stands for itself.

* `d` : not allowed
* `i` : dropped
* `s` : replaced by the character at the given distance
* `a` : every second character, from the first on, is replaced by the one that follows it
* `c` : all replaced by the same characters
* `l` : each replaced by its own characters
-/

namespace TunnelSync.Url.Idna

/-- The words of the mapping. -/
def mappingRows : List String :=
  ["d3k:v l0:0:w l7:0:w+lk l1:0:2p i2:0 l1:0:w+lg l2:3:1e,1f,w+ld,qk l2:2:w+mf,1d,33",
   "l1:2:1d+6dg+1g,1d+6dg+1e,1f+6dg+1g s1:m:w s1:6:w ax:1a l1:0:2x+lj l1:2:2x+2y,2x+2y,8l",
   "l1:0:8n a2:4 l1:1:30+53,30+53 a0:6 l1:0:jg+32 a0:18 l1:0:73 a0:4 l1:0:37 l1:1:gj,ar l1:0:at",
   "l1:1:gk,aw l1:2:gm,gn,b0 l2:3:d9,gp,gr,b6 l1:1:gw,gz l1:2:h5,h4,bd l3:1:hb,he l1:0:hh a0:4",
   "l1:1:hs,bs l1:0:hv l2:0:bx l1:1:i0,c0 l1:2:i2,i3,c4 l1:0:c6 l1:1:ia,c9 l3:0:cd",
   "l7:8:2s+am,2s+am,2s+am,30+2y,30+2y,30+2y,32+2y,32+2y,32+2y a0:e a2:g",
   "l2:3:2s+3e,2s+3e,2s+3e,dx l1:1:b9,cf a0:12 l1:0:bi a1:g l7:1:8rp,fw l1:1:be,8rq l2:0:g2",
   "l1:2:ao,i1,i4 a0:8 l2p:8:2w,h2,2y,36,hl,hn,ht,3b,3d lv:5:w+li,w+lj,w+lm,w+mg,w+lf,w+ln",
   "l2:4:gz,30,37,3c,id l2j:1:lc,ld l1:2:lv,lk+ld,qh i9:0 lw:0:oh l1:0:oj l1:0:jd l1:0:on d1:1",
   "l0:0:w+qh l3:1:1n,s3 d0:3 l0:3:w+ld,w+lk+ld,q4,53 s0:2:11 d0:0 l0:0:r0 d0:0 l0:1:r1,r2",
   "s1:g:w d0:0 s0:8:w lz:7:rb,qa,qg,qt,r1,qz,qu,qo a1:m l1:2:qi,qp,qr l1:1:qg,qd l1:0:s8",
   "l1:1:qr,sb s2:2:-3m s0:f:28 s0:v:w a1c:w a9:1g l1:0:y7 a0:c a2:2m d1:0 s0:11:1c d0:1",
   "l1a:0:12d+136 d3:1 d3:0 d1j:7 dr:3 d6:g dm:0 l2g:3:17r+19w,18o+19w,1c7+19w,18q+19w d2s:0",
   "d1c:1 d1n:1 d2t:d d1n:1 d1d:1 df:0 ds:1 d1:0 db:4 dw:6 d23:0",
   "l39:7:1sl+1to,1sm+1to,1sn+1to,1ss+1to,1sx+1to,1sy+1to,1t7+1to,1tb+1to d10:0 d8:1 d2:1 dm:0",
   "d7:0 d1:2 d4:1 d9:1 d2:1 d4:7 d1:3 l0:1:1wh+1x8,1wi+1x8 d0:0 l0:0:1wv+1x8 d4:1 dp:1 d3:0",
   "d6:3 d2:1 dm:0 d7:0 l1:0:20i+20s d0:0 l1:0:20o+20s d0:0 d2:1 d1:0 d5:3 d2:1 d3:2 d1:6",
   "l0:2:1zq+20s,1zr+20s,1zw+20s d1:0 l0:0:20b+20s d0:6 dh:9 d3:0 d9:0 d3:0 dm:0 d7:0 d2:0 d5:1",
   "da:0 d3:0 d3:1 d1:e d4:1 dc:6 d7:0 d3:0 d8:1 d2:1 dm:0 d7:0 d2:0 d5:1 d9:1 d2:1 d3:6 d3:3",
   "l0:1:275+27w,276+27w d0:0 d5:1 di:9 d2:0 d6:2 d3:0 d4:2 d2:0 d1:0 d2:2 d2:2 d3:2 dc:3 d5:2",
   "d3:0 d4:1 d1:5 d1:d dl:4 dd:0 d3:0 dn:0 dg:1 d9:0 d3:0 d4:6 d2:0 d3:0 d2:1 d4:1 da:6 dm:0",
   "d3:0 dn:0 da:0 d5:1 d9:0 d3:0 d4:6 d2:4 d3:0 d4:1 da:0 d3:b dd:0 d3:0 d1f:0 d3:0 d6:3 dg:1",
   "dq:0 d3:0 di:2 do:0 d9:0 d1:1 d7:2 d1:3 d6:0 d1:0 d8:5 da:1 d3:b l1e:0:2tp+2sy d7:3 dt:10",
   "d2:0 d1:0 d5:0 do:0 d1:0 lc:0:2x9+2wi da:1 d5:0 d1:0 d7:0 da:1 l0:1:2wb+2vt,2wb+2w1 d2:v",
   "lc:0:2yz l1i:0:30i+33r d4:0 l4:0:30s+33r l4:0:30x+33r l4:0:312+33r l4:0:317+33r lc:0:30g+33p",
   "d3:3 l2:0:31t+31u l1:4:31t+31w,33m+328,33m+31t+328,33n+328,33n+31t+328 l7:0:31t+328",
   "lh:0:32q+33r d4:0 l4:0:330+33r l4:0:335+33r l4:0:33a+33r l4:0:33f+33r lc:0:32o+33p d3:0 df:0",
   "dd:10 s4g:11:5ls d0:0 l0:0:8x3 d0:4 l0:0:8x9 d0:1 l18:0:3bw i2q:1 d6g:0 d4:1 d7:0 d1:0 d4:1",
   "d15:0 d4:1 dx:0 d4:1 d7:0 d1:0 d4:1 df:0 d1l:0 d4:1 d1v:1 dw:2 dq:5 d2e:1 s0:5:-8 d0:1 dhs:0",
   "ds:2 d2h:6 dm:8 do:8 dk:b dd:0 d3:0 d2:b i1g:1 d14:1 da:5 da:5 ib:4 da:5 d2h:6 d17:4 d1y:9",
   "dv:0 dc:3 dc:3 d1:2 d16:1 d5:a d18:3 dq:5 db:2 d1q:1 d1t:0 dt:1 db:5 da:5 de:1 d1a:1 dc:j",
   "d25:0 d4m:7 d1o:2 df:2 l1f:9:tu,tw,u6,u9,ua,ua,ui,v7,wuj,5my d1:4 s0:16:-2bk d0:1 s0:2:-2bk",
   "d8:7 d17:4 l18:2:2p,6e,2q l1:2:2s,2t,d9 s0:7:-5os",
   "l1:h:33,f7,34,36,38,39,3b,2p,gg,gh,5qa,2q,2s,2t,gp,gr,gs,2v",
   "l1:d:2z,31,97,33,gk,5qu,5qv,34,38,39,5r1,hb,3a,5r9 s0:2:-52j",
   "l0:a:qu,qv,2x,36,39,3a,qa,qb,qp,qu,qv ld:0:u5 ly:8:gi,2r,gl,6o,gs,2u,gv,gx,h1 s0:2:-5do",
   "l0:6:5tn,il,h9,5tx,in,hd,hc s0:3:-5do l0:9:hk,hu,hv,bv,i1,i2,5r0,i3,i4,3e s0:2:-5d8 l0:0:qg",
   "a1s:44 l5:1:2p+ji,601 l2:0:67 a1:2m s9:7:-8 d6:1 s0:5:-8 d0:1 s8:7:-8 s8:7:-8 d6:1 s0:5:-8",
   "d0:1 d8:0 l0:0:66p d0:0 l0:0:66r d0:0 l0:0:66t d0:0 l0:0:66v s8:7:-8 l1:0:q4 l1:0:q5 l1:0:q6",
   "l1:0:q7 l1:0:r0 l1:0:r1 l1:0:r2 d0:1",
   "l0:9:64g+qh,64h+qh,64i+qh,64j+qh,64k+qh,64l+qh,64m+qh,64n+qh,64g+qh,64h+qh",
   "l0:9:64i+qh,64j+qh,64k+qh,64l+qh,64m+qh,64n+qh,65c+qh,65d+qh,65e+qh,65f+qh",
   "l0:9:65g+qh,65h+qh,65i+qh,65j+qh,65c+qh,65d+qh,65e+qh,65f+qh,65g+qh,65h+qh",
   "l0:9:65i+qh,65j+qh,674+qh,675+qh,676+qh,677+qh,678+qh,679+qh,67a+qh,67b+qh",
   "l0:7:674+qh,675+qh,676+qh,677+qh,678+qh,679+qh,67a+qh,67b+qh l2:2:67k+qh,q9+qh,q4+qh d0:0",
   "l1:c:69i+qh,69c,69d,67k,q4,q9+qh,w+lv,qh,w+lv,w+n6,w+lk+n6,67o+qh,qf+qh l0:0:q6+qh d0:0",
   "l1:8:69y+qh,67m,q5,67o,q6,qf+qh,w+lv+lc,w+lv+ld,w+lv+n6 l3:0:pc d0:1 l2:3:6a8,6a9,67q,q7",
   "d0:0 l0:2:w+lw+lc,w+lw+ld,w+lw+n6 l3:0:q8 l4:7:6ao,6ap,67u,r1,6at,w+lk+lc,w+lk+ld,2o d0:1",
   "l0:2:67w+qh,qx+qh,r2+qh d0:0 l1:7:6ba+qh,67s,r0,67w,r2,qx+qh,w+ld,w+lw d0:0 c0:a:w i0:0 d2:1",
   "l1:0:6c0 l5:0:w+mr dc:2 d1:6 l0:0:w l3:1:6cy+6cy,6cy+6cy+6cy l1:1:6d1+6d1,6d1+6d1+6d1",
   "l4:0:x+x l1:0:w+lh l8:2:1r+1r,1r+x,x+1r ld:0:6cy+6cy+6cy+6cy l7:0:w i0:4 d0:4 i0:5",
   "l0:1:1c,2x d0:1 s0:5:-6dc l0:5:17,6qa,1p,14,15,32 s0:9:-6ds l0:4:17,6qa,1p,14,15 d0:0",
   "l0:5:2p,2t,33,3c,gp,2w s0:3:-6cr l0:2:34,37,38 d0:2 l8:0:36+37 dp:d dx:e",
   "l0:3:2p+1b+2r,2p+1b+37,2r,4w+2r l1:2:2r+1b+33,2r+1b+39,gr l1:1:4w+2u,2v c0:3:2w",
   "l0:4:87,2x,2x,30,30 l1:1:32,32+33 s2:2:-6g9 l0:1:36,36 l2:2:37+31,38+2t+30,38+31 l1:0:3e",
   "l1:0:qx l1:0:3e l1:3:2z,6d,2q,2r l1:5:2t,2t,2u,6ku,31,33 s0:3:-5et l0:0:2x",
   "l1:5:2u+2p+3c,qo,qb,qb,qo,6q9 l4:4:2s,2s,2t,2x,2y",
   "l6:5:1d+6dg+1j,1d+6dg+1l,1d+6dg+1d+1c,1d+6dg+1f,1e+6dg+1f,1d+6dg+1h",
   "l0:6:1e+6dg+1h,1f+6dg+1h,1g+6dg+1h,1d+6dg+1i,1h+6dg+1i,1d+6dg+1k,1f+6dg+1k",
   "l0:9:1h+6dg+1k,1j+6dg+1k,1d+6dg,2x,2x+2x,2x+2x+2x,2x+3a,3a,3a+2x,3a+2x+2x",
   "l0:b:3a+2x+2x+2x,2x+3c,3c,3c+2x,3c+2x+2x,30,2r,2s,31,2x,2x+2x,2x+2x+2x",
   "l0:b:2x+3a,3a,3a+2x,3a+2x+2x,3a+2x+2x+2x,2x+3c,3c,3c+2x,3c+2x+2x,30,2r,2s l0:0:31 l3:0:6mc",
   "l5:0:1c+6dg+1f d2:3 l4c:1:6qz+6qz,6qz+6qz+6qz l1:1:6r2+6r2,6r2+6r2+6r2 l6w:1:9hk,9hl d73:l",
   "db:k s0:8:-75b l0:a:1d+1c,1d+1d,1d+1e,1d+1f,1d+1g,1d+1h,1d+1i,1d+1j,1d+1k,1d+1l,1e+1c",
   "l0:6:14+1d+15,14+1e+15,14+1f+15,14+1g+15,14+1h+15,14+1i+15,14+1j+15",
   "l0:5:14+1k+15,14+1l+15,14+1d+1c+15,14+1d+1d+15,14+1d+1e+15,14+1d+1f+15",
   "l0:4:14+1d+1g+15,14+1d+1h+15,14+1d+1i+15,14+1d+1j+15,14+1d+1k+15",
   "l0:1:14+1d+1l+15,14+1e+1c+15 d0:j",
   "l0:6:14+2p+15,14+2q+15,14+2r+15,14+2s+15,14+2t+15,14+2u+15,14+2v+15",
   "l0:6:14+2w+15,14+2x+15,14+2y+15,14+2z+15,14+30+15,14+31+15,14+32+15",
   "l0:6:14+33+15,14+34+15,14+35+15,14+36+15,14+37+15,14+38+15,14+39+15",
   "l0:4:14+3a+15,14+3b+15,14+3c+15,14+3d+15,14+3e+15 s0:p:-76d s0:p:-773 l0:0:1c",
   "l10h:0:6qz+6qz+6qz+6qz l2v:2:1m+1m+1p,1p+1p,1p+1p+1p l2t:0:8gt+mw d47:1 s3u:1b:1c l1c:0:8rl",
   "l1:2:h7,5tp,hp a2:4 l1:3:gh,hd,gg,gi l1:0:8s3 l2:0:8s6 l6:3:2y,3a,fz,g0 a0:2q l8:0:8vg",
   "l1:0:8vi l4:0:8vn d1:4 d19:0 d1:4 d1:1 d1k:6 l0:0:8yp d1:d do:8 d7:0 d7:0 d7:0 d7:0 d7:0",
   "d7:0 d7:0 d7:0 d3i:x dq:0 l4:0:lal l2b:0:vj3 d0:b",
   "l0:g:feo,ffs,fg6,fgf,fh5,fid,fik,fj4,fju,g1r,g2t,g2z,g3m,g46,g4r,g68,g6t",
   "l0:g:g74,gbf,ge1,get,gey,gfs,gg1,ggs,gh5,ghu,gja,gjs,gkj,h5j,h7j,hkb,hky",
   "l0:g:hl6,hlh,hlz,ho3,i1c,i2o,i60,i6n,i76,i7s,i9a,i9d,ijf,ijp,ik1,ike,inm",
   "l0:g:inu,inz,ir8,iri,irv,is3,its,iu9,iur,iwz,jd4,jee,jez,jzj,jzo,k1z,k2f",
   "l0:g:k2s,k3d,k4g,k4l,kc0,kco,kdk,l5s,l7m,l89,l9v,laj,las,laz,lcf,lck,ldg",
   "l0:g:m7f,mju,mk6,mkb,mkf,mkn,ml5,ml7,mng,mtg,mtl,n30,n3a,n4o,n4v,n54,n5c",
   "l0:g:n7v,n82,nee,nel,nfy,ngf,nhq,nob,noi,noz,ny2,o1k,o1q,o6s,o97,oah,okz",
   "l0:g:ooo,p4m,p5d,p6y,p8d,pa9,pak,paq,pbn,pdr,pe1,pnn,pnu,po3,poc,pos,pp7",
   "l0:g:ppb,pri,prm,prs,qj1,qjv,qww,qx8,qxv,r5q,r63,r82,r9c,rp3,rpi,rpx,rqw",
   "l0:g:rrx,rxg,rxs,rzn,s6j,s7e,sd7,sds,sdx,sk1,sp5,ssm,sss,ssx,tiv,tj4,tng",
   "l0:g:trq,trt,tt4,tw1,twe,twi,twp,tzf,u0d,u0j,u0x,u5k,u6z,u73,uc6,uc9,ucs",
   "l0:g:ujs,ul4,ulb,un9,unj,unm,unw,uoq,uzp,vat,vb3,vc5,vcr,vcz,vd9,vdd,veh",
   "l0:9:vel,vf2,vf7,vfk,vgb,vgq,vgy,vil,vj0,vj4 d0:15 l0:0:w l1:0:1a l1f:0:9hu l1:2:gg1,gg4,gg5",
   "d5:0 d2e:1 l2:1:w+9ll,w+9lm l2:0:9l4+9l6 l2n:0:9mb+9mw d0:4 d17:0",
   "l0:5:3cw,3cx,3hm,3cy,3ho,3hp s0:2:-6d0 s0:5:-68a l0:0:3dm s0:2:-6d7 l0:0:3dt s0:9:-6d8",
   "s0:k:-6b2 i0:0 l0:g:3dg,3dh,3if,3ig,3ik,3im,3ir,3iv,3ix,3do,3j1,3j3,3dp,3dq,3ds,3du,3dv",
   "l0:1:3dz,3e1 s0:4:-6dp l0:6:3ea,3ee,3eo,3ev,3f0,3jl,3jm s0:2:-6ct",
   "l0:7:3gk,3gl,3go,3gx,3gy,3h0,3ha,3hd d0:0",
   "l2:d:feo,fik,fex,h5n,fey,ffx,fez,n5e,fh5,ffd,fep,hm1,h80,fju d1y:9",
   "lg:6:14+3cw+15,14+3cy+15,14+3cz+15,14+3d1+15,14+3d2+15,14+3d3+15,14+3d5+15",
   "l0:6:14+3d7+15,14+3d8+15,14+3da+15,14+3db+15,14+3dc+15,14+3dd+15,14+3de+15",
   "l0:5:14+xz4+15,14+yvs+15,14+zc4+15,14+108s+15,14+10p4+15,14+115g+15",
   "l0:5:14+1224+15,14+12ys+15,14+13f4+15,14+14bs+15,14+14s4+15,14+158g+15",
   "l0:4:14+15os+15,14+1654+15,14+13p8+15,14+1350+13ic+15,14+1350+16f8+15 d0:0",
   "l0:6:14+feo+15,14+fik+15,14+fex+15,14+h5n+15,14+fis+15,14+g31+15,14+fer+15",
   "l0:6:14+g2z+15,14+fh9+15,14+gg1+15,14+kco+15,14+m7f+15,14+ldg+15,14+kdk+15",
   "l0:6:14+ssx+15,14+h7j+15,14+k4l+15,14+kkq+15,14+kcp+15,14+ny6+15,14+glp+15",
   "l0:6:14+mm1+15,14+rs1+15,14+nz1+15,14+gc4+15,14+fkz+15,14+gos+15,14+i1y+15",
   "l0:6:14+nhf+15,14+flt+15,14+rt3+15,14+ggk+15,14+nzh+15,14+fm9+15,14+pnu+15",
   "l0:4:14+po3+15,gun,inw,k1z,oen",
   "l8:a:34+38+2t,1e+1d,1e+1e,1e+1f,1e+1g,1e+1h,1e+1i,1e+1j,1e+1k,1e+1l,1f+1c",
   "l0:7:1f+1d,1f+1e,1f+1f,1f+1g,1f+1h,3cw,3cy,3cz s0:2:-6la l0:2:3d5,3d7,3d8 s0:4:-6l7",
   "l0:d:xz4,yvs,zc4,108s,10p4,115g,1224,12ys,13f4,14bs,14s4,158g,15os,1654",
   "l0:2:14c8+y5c,13p8+13dk,138w",
   "l1:g:feo,fik,fex,h5n,fis,g31,fer,g2z,fh9,gg1,kco,m7f,ldg,kdk,ssx,h7j,k4l",
   "l0:g:kkq,kcp,ny6,glp,mm1,rs1,nz1,gc4,o2g,n5j,ho3,six,g16,ghc,lig,u11,fm9",
   "l0:f:g49,l7n,fey,ffx,fez,ijq,gkz,gfv,i3b,i1y,nhf,flt,rt3,ggk,hlo,1f+1i",
   "l0:a:1f+1j,1f+1k,1f+1l,1g+1c,1g+1d,1g+1e,1g+1f,1g+1g,1g+1h,1g+1i,1g+1j",
   "l0:9:1g+1k,1g+1l,1h+1c,1d+kco,1e+kco,1f+kco,1g+kco,1h+kco,1i+kco,1j+kco",
   "l0:7:1k+kco,1l+kco,1d+1c+kco,1d+1d+kco,1d+1e+kco,2w+2v,2t+36+2v,2t+3a",
   "l0:f:30+38+2s,9lu,9lw,9ly,9m0,9m2,9m3,9m5,9m7,9m9,9mb,9md,9mf,9mh,9mj,9ml",
   "l0:4:9mn,9mp,9ms,9mu,9mw s0:5:-ey l0:3:9n6,9n9,9nc,9nf s0:4:-eo l0:1:9no,9nq s0:5:-el",
   "s0:3:-ek l0:4:fl0+gp8,9lu+9n5+9oc+9mw,9lu+9nv+9n9+9lt,9lu+9o3+9ne+9lu,9lu+9oc+9nv",
   "l0:3:9lw+9mz+9o3+9m8,9lw+9o3+9mp,9ly+9m1+9o3,9m0+9mh+9m7+9oc+9mx",
   "l0:4:9m0+9oc+9m3+9oc,9m2+9o3+9mh,9m2+9oc+9nk,9m3+9lw+9nu,9m3+9nt+9mr+9mw",
   "l0:4:9m3+9nx+9nu+9oc,9m4+9nx+9o3,9m4+9o3+9ni,9m6+9m4,9m6+9mz+9oc",
   "l0:3:9m5+9np+9nu+9oc,9m6+9nv+9mo+9oc,9m5+9nx,9m5+9nx+9m8+9nt+9nk",
   "l0:2:9m5+9nx+9nl+9oc+9mw+9nv,9m5+9nx+9nz+9mr+9mw,9m8+9nt+9nk",
   "l0:3:9m8+9nt+9nk+9mw+9o3,9m7+9nv+9mk+9lw+9nx,9m7+9nx+9oc+9n1,9m9+9oc+9mh",
   "l0:3:9mb+9nv+9my,9mb+9oc+9nh,9md+9lw+9m7+9nv,9md+9o3+9mp+9oc+9nk",
   "l0:5:9mf+9nu+9o3+9m8,9mj+9o3+9mp,9mj+9o3+9mw,9mo+9oc+9mh,9mv+9mf,9mx+9nv",
   "l0:4:9mw+9o3,9my+9n2,9n2+9mr+9mw,9n3+9lw+9ms,9n5+9oc+9mj+9o3+9mw",
   "l0:4:9n5+9oc+9ms,9n4+9oc+9nw+9nv,9n8+9lu+9mh+9mw+9nv,9n8+9m7+9nv,9n8+9mb",
   "l0:3:9n7+9nv,9n9+9lt+9nt+9mr+9mx,9n9+9lv+9oc+9mw,9na+9mr+9mf+9lz+9nv",
   "l0:4:9n9+9nt+9o3,9nc+9m7+9mn+9oc+9nv,9ne+9ml,9ne+9mz+9n6,9nc+9nv+9ms",
   "l0:4:9ne+9o3+9mh,9ne+9oc+9mg,9nd+9oc+9mn,9nh+9lw+9o3+9mw,9ng+9nv+9mw",
   "l0:4:9nf+9o3,9nh+9o3+9mx,9nf+9oc+9nv,9nf+9oc+9o3,9ni+9lw+9m7+9nx",
   "l0:3:9ni+9lw+9nv,9ni+9mr+9n3,9ni+9nv+9m7,9ni+9o3+9mf+9nr+9o3",
   "l0:4:9nj+9m7+9nx+9o3,9nj+9nu,9nj+9nu+9n4+9oc+9nv,9nl+9m4,9nl+9m4+9mw+9o3",
   "l0:4:9nl+9oc+9mw+9nv,9no+9oc+9mx,9no+9oc+9nv,9nq+9lu+9o3,9nu+9mr+9mw+9nv",
   "l0:4:9nu+9nt,9nv+9n8+9oc,9nv+9oc+9na+9nv,9nw+9nk,9nw+9o3+9mw+9ma+9o3",
   "l0:8:9nz+9mr+9mw,1c+m9l,1d+m9l,1e+m9l,1f+m9l,1g+m9l,1h+m9l,1i+m9l,1j+m9l",
   "l0:6:1k+m9l,1l+m9l,1d+1c+m9l,1d+1d+m9l,1d+1e+m9l,1d+1f+m9l,1d+1g+m9l",
   "l0:6:1d+1h+m9l,1d+1i+m9l,1d+1j+m9l,1d+1k+m9l,1d+1l+m9l,1e+1c+m9l,1e+1d+m9l",
   "l0:7:1e+1e+m9l,1e+1f+m9l,1e+1g+m9l,2w+34+2p,2s+2p,2p+39,2q+2p+36,33+3a",
   "l0:8:34+2r,2s+31,2s+31+1e,2s+31+1f,2x+39,inn+jdc,k6l+gp8,hlz+l7n,k5q+lh7",
   "l0:8:kkq+irz+fmi+ny6,34+2p,32+2p,qk+2p,31+2p,2z+2p,2z+2q,31+2q,2v+2q",
   "l0:8:2r+2p+30,2z+2r+2p+30,34+2u,32+2u,qk+2u,qk+2v,31+2v,2z+2v,2w+3e",
   "l0:8:2z+2w+3e,31+2w+3e,2v+2w+3e,38+2w+3e,qk+30,31+30,2s+30,2z+30,2u+31",
   "l0:8:32+31,qk+31,31+31,2r+31,2z+31,31+31+1e,2r+31+1e,31+1e,2z+31+1e",
   "l0:6:31+31+1f,2r+31+1f,31+1f,2z+31+1f,31+6qd+37,31+6qd+37+1e,34+2p",
   "l0:4:2z+34+2p,31+34+2p,2v+34+2p,36+2p+2s,36+2p+2s+6qd+37",
   "l0:8:36+2p+2s+6qd+37+1e,34+37,32+37,qk+37,31+37,34+3a,32+3a,qk+3a,31+3a",
   "l0:9:2z+3a,31+3a,34+3b,32+3b,qk+3b,31+3b,2z+3b,31+3b,2z+qx,31+qx d0:0",
   "l0:3:2q+35,2r+2r,2r+2s,2r+6qd+2z+2v d0:0",
   "l0:a:2s+2q,2v+3d,2w+2p,2w+34,2x+32,2z+2z,2z+31,2z+38,30+31,30+32,30+33+2v",
   "l0:4:30+3c,31+2q,31+2x+30,31+33+30,34+2w d0:0",
   "l0:8:34+34+31,34+36,37+36,37+3a,3b+2q,3a+6qd+31,2p+6qd+31,1d+k4l,1e+k4l",
   "l0:8:1f+k4l,1g+k4l,1h+k4l,1i+k4l,1j+k4l,1k+k4l,1l+k4l,1d+1c+k4l,1d+1d+k4l",
   "l0:6:1d+1e+k4l,1d+1f+k4l,1d+1g+k4l,1d+1h+k4l,1d+1i+k4l,1d+1j+k4l,1d+1k+k4l",
   "l0:6:1d+1l+k4l,1e+1c+k4l,1e+1d+k4l,1e+1e+k4l,1e+1f+k4l,1e+1g+k4l,1e+1h+k4l",
   "l0:6:1e+1i+k4l,1e+1j+k4l,1e+1k+k4l,1e+1l+k4l,1f+1c+k4l,1f+1d+k4l,2v+2p+30 dm8d:2 d1j:8 d9o:j",
   "a0:18 aj:q l1:1:ui,uk d2i:7 ay:c a3:1o l1:0:x2n l8:0:x2y l1:0:x30 l1:0:5tl a0:8 l4:0:x3g",
   "l1:0:h1 l2:0:x3l l1:0:x3n a3:i l1:4:h2,gs,gx,h8,h6 l1:3:im,hz,il,xub a0:e",
   "l1:3:x3o,hu,5u6,x54 l1:0:x56 l1:0:h0 a0:e l1:0:bf d0:j l0:4:37,2r,2u,35,x6e l2:1:87,9f d1f:2",
   "da:5 d1k:7 d1y:7 dc:5 d38:a du:2 d26:0 db:3 dx:0 d1j:8 de:1 da:1 d2v:n ds:9 d6:1 d6:1 d6:8",
   "d7:0 d7:0 l18:3:x0n,xtj,h7,xua l9:0:i5 d2:3 s0:27:-tzk d1a:1 da:5 d8mc:b dn:3 d1d:6ir",
   "l0:g:rpk,kc4,s7e,rt4,lw1,fg2,gkl,vj0,vj0,hn5,ssx,gw7,hmw,jcm,ne1,p6t,qin",
   "l0:g:qt6,r20,sjz,kxu,ljv,mah,mvy,q4d,sq2,uep,fia,ghh,l50,mjf,qi5,v8e,ifk",
   "l0:g:m3v,qfh,r50,jih,pnc,qvz,iq2,kd3,lm2,mpo,slq,fpi,g53,gda,jwk,l3n,mj4",
   "l0:g:nhj,pa9,qh2,qjg,s1b,tv6,upb,v7e,nt8,nzz,otc,q15,t1g,vb3,rfa,hjz,iro",
   "l0:g:okg,pdq,mle,nuy,rsy,ttj,hjs,i8y,kyb,lp6,lxr,oq7,oxj,tor,gcy,pe3,g64",
   "l0:g:g5o,o4c,ou6,q29,tpx,rk0,jin,kxu,rge,fg9,i5j,iz6,mtj,n74,gev,nwb,fr3",
   "l0:g:iw9,ff1,lho,k1k,opu,gjn,hge,ni9,q4p,re2,la2,sds,lfs,jjy,put,jog,n6t",
   "l0:g:fji,g2x,g5l,kn5,oo7,prj,rf6,ssv,gdx,gn6,ho3,ir0,k3p,m4e,nxm,tkd,ui2",
   "l0:g:vbr,vda,gbf,kau,l87,sbm,ino,j9s,jcw,jve,lyb,mdl,n0p,o22,ovo,pdb,s9y",
   "l0:g:q9a,sgz,t3e,g7r,gbn,gql,ma0,r0i,re2,iq1,iyd,jnf,l9q,oji,mt1,fl0,h6h",
   "l0:g:i5j,iii,izg,muq,mzt,p7e,pc6,svo,tti,tvs,u1k,fpn,o1a,ss4,trs,j4x,fie",
   "l0:g:fyy,i5q,i7z,k2h,kxu,mha,ncy,q9o,sjg,vil,k94,tny,gax,kfv,kj7,lkx,luk",
   "l0:g:mx5,n6h,nsb,opc,u3i,g31,je6,tq0,fu3,ie1,lpm,sa2,ivf,j7o,kk7,mtj,tqe",
   "l0:g:g89,glr,i91,k5v,kem,ko8,lid,mx2,naa,p6h,r0v,r1d,sss,tsy,gfz,lve,gm5",
   "l0:g:mhc,n14,qgq,tr7,uvr,vbz,kgn,lor,pns,o97,obk,olu,mo0,m8p,riw,fk0,px2",
   "l0:e:g8q,g7b,ip2,jir,onq,i2t,ljy,kac,saj,qx8,tot,r63,iqb,g1s,gxs l2:0:hga l1:0:k8k",
   "l2:9:g66,mqy,ngq,ny4,nz2,nz9,o0f,tw6,on2,p8d l1:0:qhe l1:0:rg8 l2:1:shk,sn1",
   "l3:g:u7j,u7w,u94,v5g,sm6,trr,fqm,fzb,g25,gcp,gdg,ggh,gwt,gzq,h2g,hfk,hig",
   "l0:g:i90,i9a,j2s,j8o,j9q,jci,k0f,k4i,k9d,kn9,lmf,lqy,lya,mem,mjv,mxu,ntd",
   "l0:g:ny6,nyh,nyg,nyo,nyu,nz1,o0d,o0e,o5c,o75,og0,ovo,ow9,oxt,p6a,pad,pnx",
   "l0:g:prt,prt,q53,r2o,r6e,rgh,ri1,rtf,ruw,sdy,shk,tsz,u0v,u2j,j1x,36cu,pp4 d0:1",
   "l0:g:ffq,g51,g2w,fpc,g1x,g3k,gcn,ge2,gwt,gut,gwp,gyq,hga,hir,hms,hn8,huq",
   "l0:g:i08,iqa,iqh,iuh,iwd,j4o,j7y,j60,j9q,j8g,jci,jec,jpg,jrw,jte,k0m,k8k",
   "l0:g:kd3,kd7,keu,l89,la2,lkx,lwb,lvv,lya,m5a,mem,nmv,mk5,mnj,mqy,n01,n46",
   "l0:g:n5n,nbx,nbz,ngq,nh7,nhw,nka,nk0,nv0,o8h,og0,ol7,orf,ovo,p4u,pad,pxu",
   "l0:g:q27,qrd,r41,r5y,r6e,ren,rg8,rez,rgh,rge,rfx,ri1,rka,ruw,sag,sj6,srd",
   "l0:f:sxi,tq4,tsz,tw6,tzv,u0v,u17,u2j,umq,vj0,313e,3138,33dh,brx,cns,cop",
   "l0:4:39e1,3bgw,3i6r,vgj,vim d0:11 l0:6:2u+2u,2u+2x,2u+30,2u+2u+2x,2u+2u+30,37+38,37+38 d0:b",
   "l0:4:12s+12u,12s+12d,12s+12j,132+12u,12s+12l d0:4 l0:0:15l+14k l1:4:16a+14n,15u,15c,15f,15g",
   "s0:2:-1cg9 l0:8:160,162,17,161+14x,161+14y,161+14s+14x,161+14s+14y,15c+14n,15c+14o",
   "l0:6:15c+14s,15d+14s,15e+14s,15f+14s,15g+14s,15h+14s,15i+14s d0:0",
   "l0:4:15k+14s,15l+14s,15m+14s,15n+14s,15o+14s d0:0 l0:0:15q+14s d0:0 l0:1:15s+14s,15t+14s",
   "d0:0 l0:1:15v+14s,15w+14s d0:0",
   "l0:7:15y+14s,15z+14s,160+14s,161+14s,162+14s,15h+14p,15d+14v,15n+14v",
   "l0:3:15w+14v,15c+15o,19t,19t c0:3:1a3 c0:3:1a6 c0:3:1a8 c0:3:1a2 c0:3:1a7 c0:3:1a1 c0:3:1b8",
   "c0:3:1ba c0:3:1ac c0:3:1ab c0:3:1ae c0:3:1af",
   "l0:b:1al,1al,1ak,1ak,1am,1am,1ag,1ag,1aw,1aw,1ap,1ap c0:3:1bd c0:3:1bj c0:3:1bn c0:3:1bl",
   "l0:1:1bu,1bu c0:3:1bv l0:1:1c0,1c0 c0:3:1c1 c0:3:1by l0:3:1ci,1ci,1cj,1cj cx:3:1bh",
   "l0:c:1c7,1c7,1c6,1c6,1c8,1c8,1c7+19w,1cb,1cb,1c5,1c5,1c9,1c9 c0:3:1cg",
   "l0:8:18p,18p,17q+17r,17q+17r,17q+1cl,17q+1cl,17q+18o,17q+18o,17q+1c7",
   "l0:7:17q+1c7,17q+1c6,17q+1c6,17q+1c8,17q+1c8,17q+1cg,17q+1cg,17q+1cg",
   "l0:2:17q+18p,17q+18p,17q+18p c0:3:1cc",
   "l0:7:17q+17w,17q+17x,17q+18l,17q+18p,17q+18q,17s+17w,17s+17x,17s+17y",
   "l0:7:17s+18l,17s+18p,17s+18q,17u+17w,17u+17x,17u+17y,17u+18l,17u+18p",
   "l0:7:17u+18q,17v+17w,17v+18l,17v+18p,17v+18q,17w+17x,17w+18l,17x+17w",
   "l0:7:17x+18l,17y+17w,17y+17x,17y+18l,183+17w,183+17x,183+17y,183+18l",
   "l0:7:185+17x,185+18l,186+17w,186+17x,186+17y,186+18l,187+17x,187+18l",
   "l0:7:188+18l,189+17w,189+18l,18a+17w,18a+18l,18h+17w,18h+17x,18h+17y",
   "l0:7:18h+18l,18h+18p,18h+18q,18i+17x,18i+18l,18i+18p,18i+18q,18j+17r",
   "l0:7:18j+17w,18j+17x,18j+17y,18j+18k,18j+18l,18j+18p,18j+18q,18k+17w",
   "l0:7:18k+17x,18k+17y,18k+18l,18k+18p,18k+18q,18l+17w,18l+17x,18l+17y",
   "l0:7:18l+18l,18l+18p,18l+18q,18m+17w,18m+17x,18m+17y,18m+18l,18m+18p",
   "l0:7:18m+18q,18n+17w,18n+18l,18n+18p,18n+18q,18q+17w,18q+17x,18q+17y",
   "l0:7:18q+18l,18q+18p,18q+18q,180+19s,181+19s,18p+19s,w+18s+18x,w+18t+18x",
   "l0:6:w+18u+18x,w+18v+18x,w+18w+18x,w+18x+19s,17q+181,17q+182,17q+18l",
   "l0:7:17q+18m,17q+18p,17q+18q,17s+181,17s+182,17s+18l,17s+18m,17s+18p",
   "l0:7:17s+18q,17u+181,17u+182,17u+18l,17u+18m,17u+18p,17u+18q,17v+181",
   "l0:7:17v+182,17v+18l,17v+18m,17v+18p,17v+18q,18h+18p,18h+18q,18i+18p",
   "l0:7:18i+18q,18j+17r,18j+18k,18j+18l,18j+18p,18j+18q,18k+18l,18k+18p",
   "l0:7:18k+18q,18l+17r,18l+18l,18m+181,18m+182,18m+18l,18m+18m,18m+18p",
   "l0:7:18m+18q,18p+19s,18q+181,18q+182,18q+18l,18q+18m,18q+18p,18q+18q",
   "l0:7:17q+17w,17q+17x,17q+17y,17q+18l,17q+18n,17s+17w,17s+17x,17s+17y",
   "l0:7:17s+18l,17s+18n,17u+17w,17u+17x,17u+17y,17u+18l,17u+18n,17v+18l",
   "l0:7:17w+17x,17w+18l,17x+17w,17x+18l,17y+17w,17y+18l,183+17w,183+17x",
   "l0:7:183+17y,183+18l,185+17x,185+17y,185+18l,186+17w,186+17x,186+17y",
   "l0:7:186+18l,187+17x,188+18l,189+17w,189+18l,18a+17w,18a+18l,18h+17w",
   "l0:7:18h+17x,18h+17y,18h+18l,18i+17x,18i+18l,18j+17w,18j+17x,18j+17y",
   "l0:7:18j+18k,18j+18l,18k+17w,18k+17x,18k+17y,18k+18l,18k+18n,18l+17w",
   "l0:7:18l+17x,18l+17y,18l+18l,18m+17w,18m+17x,18m+17y,18m+18l,18m+18n",
   "l0:7:18n+17w,18n+18l,18n+19s,18q+17w,18q+17x,18q+17y,18q+18l,18q+18n",
   "l0:7:17q+18l,17q+18n,17s+18l,17s+18n,17u+18l,17u+18n,17v+18l,17v+18n",
   "l0:7:183+18l,183+18n,184+18l,184+18n,18j+18k,18j+18l,18k+18l,18m+18l",
   "l0:6:18m+18n,18q+18l,18q+18n,18g+18u+18x,18g+18v+18x,18g+18w+18x,187+18p",
   "l0:7:187+18q,189+18p,189+18q,18a+18p,18a+18q,183+18p,183+18q,184+18p",
   "l0:7:184+18q,17x+18p,17x+18q,17w+18p,17w+18q,17y+18p,17y+18q,185+18p",
   "l0:7:185+18q,186+18p,186+18q,184+17w,184+17x,184+17y,184+18l,184+181",
   "l0:7:183+181,185+181,186+181,187+18p,187+18q,189+18p,189+18q,18a+18p",
   "l0:7:18a+18q,183+18p,183+18q,184+18p,184+18q,17x+18p,17x+18q,17w+18p",
   "l0:7:17w+18q,17y+18p,17y+18q,185+18p,185+18q,186+18p,186+18q,184+17w",
   "l0:7:184+17x,184+17y,184+18l,184+181,183+181,185+181,186+181,184+17w",
   "l0:7:184+17x,184+17y,184+18l,183+18n,184+18n,187+18l,183+17w,183+17x",
   "l0:7:183+17y,184+17w,184+17x,184+17y,187+18l,188+18l,17r+18r,17r+18r",
   "li:4:17u+17w+18l,17u+17x+17w,17u+17x+17w,17u+17x+18l,17u+17y+18l",
   "l0:4:17u+18l+17w,17u+18l+17x,17u+18l+17y,17w+18l+17x,17w+18l+17x",
   "l0:4:17x+18l+18q,17x+18l+18p,183+17x+17w,183+17w+17x,183+17w+18p",
   "l0:4:183+18l+17x,183+18l+17x,183+18l+17w,183+18l+18l,183+18l+18l",
   "l0:4:185+17x+17x,185+17x+17x,185+18l+18l,184+17x+18l,184+17x+18l",
   "l0:4:184+17w+18q,184+18l+17y,184+18l+17y,184+18l+18l,184+18l+18l",
   "l0:4:186+17x+18p,186+17y+18l,186+17y+18l,187+18l+17x,187+18l+17x",
   "l0:4:187+18l+18l,187+18l+18q,189+17w+18l,189+18l+18l,189+18l+18l",
   "l0:4:189+18l+18p,18a+18l+18l,18a+18l+18q,18a+18l+18p,18h+17y+18l",
   "l0:4:18h+17y+18l,18i+18l+17x,18i+18l+18l,18k+17x+18l,18k+17x+18q",
   "l0:4:18k+17x+18p,18k+17w+17w,18k+17w+17w,18k+17y+18l,18k+17y+18l",
   "l0:4:18k+18l+17x,18k+18l+17x,18l+17x+17w,18l+17x+18l,18l+17x+18q",
   "l0:3:18l+17w+17x,18l+17w+18l,18l+17y+17w,18l+17y+18l",
   "l2:4:18l+17w+17y,18n+18l+17w,18n+18l+18l,18m+17x+18l,18m+17x+18p",
   "l0:4:18m+17w+18l,18m+17w+18l,18m+17w+18p,18m+18l+18q,18m+18l+18p",
   "l0:4:18q+18l+18l,18q+18l+18l,17s+17y+18q,17u+17w+18q,17u+17w+18p",
   "l0:4:17u+17y+18q,17u+17y+18p,17u+18l+18q,17u+18l+18p,17w+18l+18q",
   "l0:4:17w+17x+18p,17w+18l+18p,183+17y+18p,185+17x+18q,184+17x+18q",
   "l0:4:186+17x+18q,18k+17w+18q,18k+18l+18q,18q+17x+18q,18q+17w+18q",
   "l0:4:18q+18l+18q,18l+18l+18q,18i+18l+18q,18m+17x+18q,18i+18l+17x",
   "l0:4:18k+17x+18l,189+18l+18q,18j+18l+18q,18m+17w+17x,18l+17y+18q",
   "l0:4:18k+17w+18l,18j+18l+18l,18k+17w+18l,18m+17w+17x,17w+17x+18q",
   "l0:4:17x+17w+18q,18l+17w+18q,18h+18l+18q,17s+17x+18q,18j+18l+18l",
   "l0:3:189+17w+18l,185+18l+18l,183+17y+18q,18m+17w+18q d8:v",
   "l0:3:185+18k+1ci,18i+18k+1ci,17r+18k+18k+18n,17r+18j+17s+181",
   "l0:3:18l+17x+18l+17z,185+18k+189+18l,181+183+18o+18k,189+18k+18q+18n",
   "l0:1:18o+183+18k+18l,185+18k+18p",
   "l0:0:185+18k+18p+w+17r+18k+18k+18n+w+189+18k+18q+18n+w+18o+183+18k+18l",
   "l0:1:17w+18k+w+17w+18k+17r+18k+18n,181+1cc+17r+18k i3:f l0:1:18,9hd d0:0",
   "l0:5:1m,1n,x,1r,9hy,9hz d0:6 dg:0",
   "l0:f:6c4,6c3,2n,2n,14,15,3f,3h,9hw,9hx,9hs,9ht,9hm,9hn,9hk,9hl s0:3:-14qd",
   "l2:5:2j,2l,w+lh,w+lh,w+lh,w+lh c0:2:2n l0:1:18,9hd d0:1",
   "l0:i:1n,1m,1r,x,6c4,14,15,3f,3h,9hw,9hx,z,12,16,17,19,1o,1q,1p d0:0 l0:3:2k,10,11,1s d0:3",
   "l0:2:w+18r,18g+18r,w+18s l1:0:w+18t d0:0",
   "l0:9:w+18u,18g+18u,w+18v,18g+18v,w+18w,18g+18w,w+18x,18g+18x,w+18y,18g+18y",
   "l0:8:17l,17m,17m,17n,17n,17o,17o,17p,17p c0:3:17q l0:1:17r,17r c0:3:17s l0:1:17t,17t",
   "c0:3:17u c0:3:17v c0:3:17w c0:3:17x c0:3:17y l0:7:17z,17z,180,180,181,181,182,182 c0:3:183",
   "c0:3:184 c0:3:185 c0:3:186 c0:3:187 c0:3:188 c0:3:189 c0:3:18a c0:3:18h c0:3:18i c0:3:18j",
   "c0:3:18k c0:3:18l c0:3:18m c0:3:18n l0:3:18o,18o,18p,18p c0:3:18q",
   "l0:7:18k+17m,18k+17m,18k+17n,18k+17n,18k+17p,18k+17p,18k+17r,18k+17r d0:1 i0:0 d0:0",
   "s0:v:-1ecg s0:p:-1ebk s0:z:-1ecg",
   "l0:g:879,87a,1a,9ho,9hp,9hd,9ob,9o2,9lt,9lv,9lx,9lz,9m1,9nn,9np,9nr,9mr",
   "l0:g:9oc,9lu,9lw,9ly,9m0,9m2,9m3,9m5,9m7,9m9,9mb,9md,9mf,9mh,9mj,9ml,9mn",
   "l0:3:9mp,9ms,9mu,9mw s0:5:-14u3 l0:3:9n6,9n9,9nc,9nf s0:4:-14tt l0:1:9no,9nq s0:5:-14tq",
   "l0:3:9nz,9o3,9ll,9lm i0:0 l0:5:3cw,3cx,3hm,3cy,3ho,3hp s0:2:-1b50 s0:5:-1b0a l0:0:3dm",
   "s0:2:-1b57 l0:0:3dt s0:9:-1b58 d0:2 s0:5:-1b35 d0:1 s0:5:-1b37 d0:1 s0:5:-1b39 d0:1",
   "s0:2:-1b3b d0:2 l0:6:4i,4j,4s,w+lg,4m,4l,6g9 d0:0 l0:0:7b6 s0:3:-17x5 l0:1:7fk,7gr d0:g dc:0",
   "dq:0 dj:0 d2:0 df:1 de:x d3f:4 d3:3 d19:2 d2g:0 dd:2 d1:1a d1a:3l dt:2 d1d:e ds:3 d10:8 du:4",
   "d17:4 du:0 d11:3 de:15 s0:13:14 d3a:1 da:5 s0:z:14 d0:3 d10:3 d14:7 d1g:a s1:a:13 d0:0",
   "s0:e:13 d0:0 s0:6:13 d0:0 l0:1:1fp7,1fp8 d0:0 db:0 df:0 d7:0 d2:2 d1g:b d8n:8 dm:9 d8:n",
   "l1:4:k0,k1,6e,ih,gj d0:0",
   "l0:l:ir,xuu,it,is,gm,gn,5u9,go,gu,ix,h0,gy,gw,ij,87,ik,h3,hw,iy,iz,h8,2mmc",
   "l0:j:x3i,ha,2mmd,i6,2mme,6w,hi,hj,35,hm,2mmg,hp,hq,hs,iw,iu,xuv,iv,i0,8s1 d0:0",
   "l0:3:i7,ip,iq,ig s0:2:-1fqu l0:1:2mmi,2mn2 d0:1w d6:1 d1:0 d18:0 d2:2 d1:1 dn:0 d20:7 d9:1b",
   "dj:0 d2:4 dx:2 dr:4 dr:11 d1k:3 dk:1 d1e:0 d2:4 d8:0 d3:0 dt:1 d3:3 da:6 d9:6 d1s:v d13:3",
   "dc:8 d1i:2 dt:1 dr:4 dq:6 d4:b d7:27 d21:1i s0:1e:1s d0:c d1f:6 d1a:7 da:5 sg:l:w d0:2 dt:7",
   "d2:5r dv:0 d16:0 d3:1 d2:f d6:7 d9:w d1a:7 d16:l dq:11 ds:j dn:8 d26:3 d10:8 d1q:0 d5:c dp:6",
   "da:5 d1h:0 di:7 d13:8 d2o:0 dk:a di:0 d1b:1p d7:0 d1:0 d4:0 df:0 db:5 d1n:4 da:5 d4:0 d8:1",
   "d2:1 dm:0 d7:0 d2:0 d5:0 da:1 d2:1 d3:1 d1:5 d1:4 d7:1 d7:2 d5:a da:0 d1:1 d1:0 d12:0 da:0",
   "d1:1 d1:0 d4:0 da:0 d2:7 d2:s d2k:0 d5:t d20:7 da:4l d1i:1 d12:x d1x:a da:5 dd:i d1m:5 da:5",
   "dk:r dr:1 df:3 dn:54 d1o:2r s0:v:w d1f:b d8:1 d1:1 d8:0 d2:0 du:0 d2:1 dc:8 da:1x d8:1 d1a:1",
   "db:q d20:7 d2b:c d21:6 da:2d d8:2f dy:d da:5 d9:0 d19:0 de:9 dt:2 dw:1 dm:0 de:20 d7:0 d2:0",
   "d18:2 d1:0 d2:0 d9:7 da:5 d6:0 d2:0 d11:0 d2:0 d6:6 da:5 d18:3 da:6t dp:6 dh:0 d15:2 dt:2c",
   "d1:e d1e:c dpn:2t d33:0 d5:a d5g:217 d2r:c dts:f dm:9 d32z:4 dg7:5a0 d1m:1c5 dft:6 dv:0 da:3",
   "d29:0 da:5 du:1 d6:9 d1y:9 da:0 d7:0 dl:4 dj:bz d1m:5h s0:v:w d1n:4 s0:o:r d0:1 dp:17 d23:3",
   "d1l:6 dh:1r d5:a d7:8 d5p2:14 dw:2o d37:6po d4:0 d7:0 d2:0 d83:e d1:s d3:1 d1:d d4:7 db0:1s3",
   "d2z:4 dd:2 d9:6 da:1 i4:3 d0:317 s5y:p:-2iyd s0:9:-2j0g d3:2 dc4:5 dn:e dh:e d1a:1 dn:8",
   "d38:1n d6u:9 d13:1 l1h:4:2jx3+2jxh,2jx4+2jxh,2jx4+2jxh+2jxq,2jx4+2jxh+2jxr,2jx4+2jxh+2jxs",
   "l0:1:2jx4+2jxh+2jxt,2jx4+2jxh+2jxu ie:7",
   "l1s:4:2jzt+2jxh,2jzu+2jxh,2jzt+2jxh+2jxq,2jzu+2jxh+2jxq,2jzt+2jxh+2jxr l0:0:2jzu+2jxh+2jxr",
   "d16:k d1y:3d dk:b dk:b d2f:8 dp:3q s0:p:-2kdb s0:p:-2ke1 s0:p:-2ker s0:6:-2kfh d0:0",
   "s0:h:-2kfh s0:p:-2kg7 s0:p:-2kgx l0:0:2p d0:0 l0:1:2r,2s d0:1 l0:0:2v d0:1 l0:1:2y,2z d0:1",
   "s0:3:-2khn d0:0 s0:7:-2khn s0:3:-2kid d0:0 l0:0:2u d0:0 s0:6:-2kid d0:0 s0:a:-2kid",
   "s0:p:-2kj3 s0:p:-2kjt l0:1:2p,2q d0:0 s0:3:-2kkj d0:1 s0:7:-2kkj d0:0 s0:6:-2kkj d0:0",
   "s0:p:-2kl9 l0:1:2p,2q d0:0 s0:3:-2klz d0:0 s0:4:-2klz d0:0 l0:0:33 d0:2 s0:6:-2klz d0:0",
   "s0:p:-2kmp s0:p:-2knf s0:p:-2ko5 s0:p:-2kov s0:p:-2kpl s0:p:-2kqb s0:p:-2kr1 s0:p:-2krr",
   "s0:p:-2ksh s0:p:-2kt7 s0:p:-2ktx s0:p:-2kun s0:p:-2kvd l0:1:8h,fr d0:1 s0:g:-2k8n l0:0:qg",
   "s0:6:-2k8n l0:0:6pz s0:g:-2k9d l0:0:qr s0:6:-2k9d l0:6:6pu,qd,qg,qi,qu,qp,qo s0:g:-2ka9",
   "l0:0:qg s0:6:-2ka9 l0:0:6pz s0:g:-2kaz l0:0:qr s0:6:-2kaz l0:6:6pu,qd,qg,qi,qu,qp,qo",
   "s0:g:-2kbv l0:0:qg s0:6:-2kbv l0:0:6pz s0:g:-2kcl l0:0:qr s0:6:-2kcl",
   "l0:6:6pu,qd,qg,qi,qu,qp,qo s0:g:-2kdh l0:0:qg s0:6:-2kdh l0:0:6pz s0:g:-2ke7 l0:0:qr",
   "s0:6:-2ke7 l0:6:6pu,qd,qg,qi,qu,qp,qo s0:g:-2kf3 l0:0:qg s0:6:-2kf3 l0:0:6pz s0:g:-2kft",
   "l0:0:qr s0:6:-2kft l0:8:6pu,qd,qg,qi,qu,qp,qo,rh,rh d0:1 s0:9:-2l5q s0:9:-2l60 s0:9:-2l6a",
   "s0:9:-2l6k s0:9:-2l6u di4:e d5:0 df:un dv:5 d6:5w d7:0 dh:1 d7:0 d2:0 d5:4 s0:8:-2m0w",
   "s0:2:-2m0v s0:a:-2m0u l0:9:uj,ul,um,ww9,yh,uu,uw,yx,xb,y7 s0:8:-2m1t l0:4:u2,u3,u6,u7,u9",
   "s0:5:-2m1o l0:8:ui,uj,wh,uu,ut,v3,x7,wup,xd d0:w d1:33 d19:2 de:1 da:3 d2:8v dv:g d1m:4",
   "d1:cv d16:5x d17:3 d1:5b dv:0 dm:7 d2:67 d7:0 d4:0 d2:0 df:0 d5h:1 dg:14 s0:x:y d16:3 da:3",
   "d2:ls d1w:23 d1p:5d l0:3:17r,17s,17w,17z d0:0 l0:4:18o,182,17x,187,18q s0:3:-2ocn",
   "l0:g:183,189,18h,185,18i,181,184,17u,17v,17y,180,186,188,18a,19q,1bu,1b5 l0:0:19r d0:0",
   "l0:1:17s,17w d0:0 l0:0:18n d0:1 l0:0:17x d0:0 l0:0:18q s0:3:-2odj l0:4:183,189,18h,185,18i",
   "d0:0 l0:3:184,17u,17v,17y d0:0 l0:0:186 d0:0 l0:0:18a d0:5 l0:0:17w d0:3 l0:0:17x d0:0",
   "l0:0:18q d0:0 l0:0:18k d0:0 l0:2:18m,183,189 d0:0 l0:1:185,18i d0:0 l0:0:184 d0:1 l0:0:17y",
   "d0:0 l0:0:186 d0:0 l0:0:18a d0:0 l0:0:1bu d0:0 l0:0:19r d0:0 l0:1:17s,17w d0:0 l0:0:18n d0:1",
   "l0:3:17x,187,18q,18j d0:0 l0:6:18l,18m,183,189,18h,185,18i d0:0 l0:3:184,17u,17v,17y d0:0",
   "l0:3:186,188,18a,19q d0:0 l0:0:1b5 d0:0 l0:9:17r,17s,17w,17z,18n,18o,182,17x,187,18q d0:0",
   "s0:2:-2og7 l0:d:183,189,18h,185,18i,181,184,17u,17v,17y,180,186,188,18a d0:4",
   "l0:2:17s,17w,17z d0:0 l0:4:18o,182,17x,187,18q d0:0 s0:2:-2oh3",
   "l0:d:183,189,18h,185,18i,181,184,17u,17v,17y,180,186,188,18a d0:1f d2:7h d18:3 d2s:b df:1",
   "df:0 df:0 d11:a l0:9:1c+18,1d+18,1e+18,1f+18,1g+18,1h+18,1i+18,1j+18,1k+18,1l+18",
   "l5:6:14+2p+15,14+2q+15,14+2r+15,14+2s+15,14+2t+15,14+2u+15,14+2v+15",
   "l0:6:14+2w+15,14+2x+15,14+2y+15,14+2z+15,14+30+15,14+31+15,14+32+15",
   "l0:6:14+33+15,14+34+15,14+35+15,14+36+15,14+37+15,14+38+15,14+39+15",
   "l0:8:14+3a+15,14+3b+15,14+3c+15,14+3d+15,14+3e+15,9hw+37+9hx,2r,36,2r+2s l0:0:3b+3e",
   "s1:p:-2q4v l0:5:2w+3a,31+3a,37+2s,37+37,34+34+3a,3b+2r lq:2:31+2r,31+2s,31+36 lz:0:2s+2y",
   "dt:1j lq:2:9kr+9jf,9mb+9mb,9md d0:c",
   "l0:g:jez,i1j,gjw,9mv,fik,hlm,r8j,hm1,fj8,k68,mch,k2h,g99,ivg,g3x,k34,g7x",
   "l0:g:oqq,n4v,rs9,hkg,gmx,lxw,jh1,jmd,feo,fex,si2,ijq,ffx,gkz,jk7,rxs,jf7",
   "l0:9:o01,o6y,glk,lts,kcp,kco,n5f,gaa,gxi,sp9 d0:3",
   "l0:4:9hw+kdo+9hx,9hw+fex+9hx,9hw+fik+9hx,9hw+i2x+9hx,9hw+m9l+9hx",
   "l0:3:9hw+jf7+9hx,9hw+nh3+9hx,9hw+gd9+9hx,9hw+k0n+9hx d0:6 l0:1:ivr,gkv d0:d d6:49 drd:2 dh:2",
   "dd:2 d62:5 dc:3 d1:e dc:3 d1k:7 da:5 d14:7 du:1 dc:3 d2:d d9:12 d9k:7 de:1 dd:2 db:2 d1l:0",
   "d1:3 dg:1 dc:3 da:6 d43:0 s2k:9:-2sao d1:sk dwyo:v d3dq:1 d4ge:1 d5rl:e dha:1wh",
   "l0:g:fgd,fg8,fgh,2tcy,fog,fqm,fqz,fsy,fwa,fx5,fzb,fyn,ae6,2ud6,g25,g2c,g2s",
   "l0:f:g3b,2u58,aex,g2v,g3x,2u6j,g47,g4k,fkc,g4s,g51,3ly7,g6t,g77,afz,g8r",
   "l0:f:g92,gaa,gaf,ahh,gcn,gcp,gdg,ge2,ged,gee,gev,gg9,ggh,ggq,ghf,ghp c0:2:ghr",
   "l0:g:2v58,m7k,gju,gkf,2vdv,gkr,gkx,gli,gpq,gmw,gnc,go8,gpu,gs6,gsw,gur,gv7",
   "l0:g:gw4,gw4,gwp,gx7,gxf,gxu,h7a,gzq,h7b,h1t,h2s,g7b,hke,hce,hdg,he5,haj",
   "l0:f:hf6,hf5,hik,2x9g,hki,hkn,hl2,hlm,hlu,hnm,2xm0,2xnu,hrg,hsr,ht3,hqw",
   "l0:g:huu,aum,av0,hzc,i0u,i0u,2y88,i4j,i54,i5j,i5v,2yhk,i67,i6e,itv,i76,ayp",
   "l0:g:i8w,i9a,ibk,ia5,2z1g,if7,2z1i,ige,igb,igs,ijl,ijm,b3j,ikd,ilk,im5,ind",
   "l0:f:b4y,2zr7,b5o,ipc,ipf,ipi,iq2,3pg2,iri,3035,3035,poh,isi,isi,b7r,335k",
   "l0:g:3cgq,iua,iuj,b8j,ivu,ix9,ixj,iyh,j29,bay,ba4,j2s,30t0,j47,j7s,j7w,j7y",
   "l0:g:j7w,j96,j9q,jaq,jac,jan,jby,jci,jcm,jdc,jdn,jfh,jht,jis,jm8,31n0,jlp",
   "l0:g:jjw,jmw,jnn,jqc,31td,js2,jph,jop,bhq,ju1,jum,jvh,juf,bjg,k0f,k18,32mi",
   "l0:g:k4j,kc8,k7d,bo9,k9d,bns,bms,g42,g45,kcg,k9o,pf1,deh,kd3,kd7,kdd,kf2",
   "l0:f:ker,33cz,bpl,kje,kg5,klu,kn9,33hp,kni,kkf,kr8,brx,ksi,kv7,kx6,l2g",
   "l0:f:33xf,l3v,bvc,l5t,34br,l78,bwu,l82,l9b,la2,la3,34p9,2yvf,34sa,le6,354s",
   "l0:g:lhb,lhp,lev,ljq,lku,lmf,lkx,lm1,lmg,lmt,357i,lkk,lrj,lta,c37,lvv,lvr",
   "l0:f:35jl,lq1,m0e,35ni,35ou,m2u,m61,m5a,m57,c5y,m6i,m7x,m7r,m99,2u5h,mdh",
   "l0:f:368z,mfw,36i3,mjs,mk5,mkw,36yw,mm8,mmt,3779,37dg,mt6,mtn,cdo,mud,ce0",
   "l0:f:ce0,myv,mzg,n01,n0l,n2i,cgr,n50,386u,n5q,389e,n74,2zrz,nbk,38v5,38vs",
   "l0:f:38zo,cn0,cnc,nhw,394j,394i,395l,396b,nj2,nj3,nj3,nka,cop,nm3,cp2,cra",
   "l0:f:39r1,nri,nt8,nv0,ctf,3a5i,nyu,3a8q,3a9x,o0f,o2z,cvj,o5c,o5m,o5r,3at8",
   "l0:f:3b1j,3b1j,oa6,d1e,3b8r,og6,og9,d2f,3beo,onm,d5s,oo8,oo3,oow,3c06,orn",
   "l0:f:d8h,ouf,ow2,oxx,d9w,3ciw,3cjr,dax,3cnt,p6i,3cqm,p79,pa2,pad,3d22,3d43",
   "l0:f:pcw,3d7s,pdc,33a7,ded,pf6,phf,dfv,pj2,hx1,3dlz,3dmd,33bn,33bw,poh,pok",
   "l0:g:sda,dij,psh,psb,pst,gc3,ptd,ptf,ptp,puu,3ebg,put,pwd,pyb,q0d,pwj,q0t",
   "l0:f:q1z,q53,pxv,q16,q18,q1o,3eie,3eqz,3emt,dnv,q9d,q9f,qae,3g0a,qck,3f3g",
   "l0:g:dp9,dpd,3f75,3ff6,dpn,qj4,qjg,qjr,qjt,qll,qko,qoe,qn6,qrd,qp4,qqz,qrq",
   "l0:f:dsn,qu9,qv5,dtl,qxs,qxv,3giv,r13,r1a,dv9,r22,aez,3gz2,3h46,dz2,dzb",
   "l0:f:rds,rfx,rka,rpx,3hrc,rsb,rsx,rvf,rxz,3i9b,2upw,s0b,rzw,s1c,2uvy,s7o",
   "l0:f:sag,3jki,3jl9,sk4,smp,snl,3ju6,snv,svs,t07,t08,sxo,t89,t91,3ksa,tjf",
   "l0:f:ej9,tkn,3l2v,eli,ts3,iia,tur,3ltx,3lzu,epa,epi,u00,3mdm,er6,3mhi,u17",
   "l0:g:u17,u21,3mpi,u76,eur,u95,ucn,ude,uf2,ez2,3nsg,umq,uv4,v0d,f66,f71,v3b",
   "l0:d:3owe,f7c,3oxx,3p5a,3p8x,vcr,f9y,veh,vem,vet,vf3,vfa,vgb,3pxc d0:15t d3t7:4 d6ju:f62t",
   "i0:6n d0:47bj"]

/-- The runs of the mapping. -/
def mappingRuns : List Text.Run := Text.runs mappingRows

end TunnelSync.Url.Idna
