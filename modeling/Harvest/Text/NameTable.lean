/-!
The names of the Unicode characters, in the order of their code points.
-/

namespace Harvest.Text

def nameLetters : List Char := " *+-0123456789ABCDEFGHIJKLMNOPQRSTUVWXYZabcdefghijkl".toList

def nameTableSize : Nat := 306511

/-- The names, one after another, packed; a line feed and the blanks after it are layout. A small
letter starts a name and says how many of its first words are those of the name before: none for
`a`, one for `b`, and so on. The other words follow, and a star at the end says that the name goes
on as the name before. A plus sign gives the code point of the next name; without one it is the one
after the name before. Characters whose names are made by a rule are left out. -/
def nameTable : String :=
  "&H<Z7_9vHCsQj;bJz@P8v55ikn7FW^2;wNh7otH^~B*v1ZtK%,!OYP3Nq~>u)Eu,>MhPHdQ3tAfNQMz.Iu2sDCIBqW9H)<NO^
  P<MaCT)nd-42L_i5<s$,KCaW0a(iZmVUW_T5ml,~aRD1O7gQ:4MY9qb+;PWbD|+QvB22:+aZ!OEjlS_Bu<C_Pecat7MF__ZK$
  .zx<NQ&ZQ!=u!uW8HxX,lp;vEk!Btt;KoW0GDW*yn@QV^@ly|mCXdWF?T^HOYJJSDjx2X0)86W=f<CsmKvm~+pi+fVtq-&8cP
  ViT-LCl-h?o>LzkBNJ:6k7QDAy%=-751ru?&;f!QtIZ*j;uuWuTfZnew9Gh-fB.)2*mnFQbZ@1p=@>o&M)ks^?zdLQ8X|6Bn^
  CsH4)3ui,?%!OANEocm@@d2K)X3PWtqdF_VJ@u=6G~=O?S;Fm+kzREvL($t1@Q@r(3$5@M6iw=At.0_qY,X<+,V??v>p)r|Wx
  ~ndH6?)?Yj|<>wlk5jo*Jp!-oHj5A>t*.p3as(-z%~l|PdM);@NX:H<%Tc*rPD,qXo-lxqu(Lg1Wp_CY69L7r7-Om58UY+u=.
  *$0?e(_zSe$of,5!TjT!fONiB37f~qiwXLK&gCSO7.&6u&8hT;W(VeIcqlmGj!8q@vxQW<hsU@TQ=wAJE=yFQk%_TNr_4r|iU
  3=Gg)~K$i7CAG&2qBB7,,r:H.oC&unl?vlQ;M>blM)$dP!nZbXa2Q5=AAy7Qzsz*^^:UlU4IlB^T:<uP|ixW-R:%qnVjh>L@z
  &=eQnat-bEABtr<)>Re?4ZPK2EF=~|Iw+>-O,K|NbrhXGNn8Ve4C~+XH;Y6;$_m4$PoKY&R_AR7<%MT^vT:MNM*0E.v!AuQI)
  qd-H(qBSge(zic^D=$:~<AsM^f!>bJM>~1D>2.0TgvQ@&u5?!^-f74?Ujr2zD<w6hL(ZCe6|l!7s$h@b2yjgp($-)^qJD5ZKN
  668OBb9Zy$rb0jwql$$3O4<|^UKNG$AM*y$1E*q>.fz9hq8T?5|^Npy<Dj+~4;|oPWm~+A2!s;k>u??z:l@MIgU%~K^1WYc0R
  =!V,5ERdCUe5&Px>Z7(i6($6;w&Nt);o7=URH?6%uU^X)ij)gbI>s!K)9HxtNUoTlvP_>26:iBCxa:Nqts5p_@,me=sMq%nOE
  ~7^GC=XA|w!2&=Z&*KURVJB+=Wu..y7-O3X1_V._Ctu4:ES<;R~n@-%,*4i)j<IwRK<K&9_d.6Jlah8TK;+?c%I6!g?^YEm>.
  4B8rNYb@k@Z=2^h2z05,<ri%Plf0jnK6ZoSR62lZ.PsE26Whp5v^6eRntR9nplfME:fSp5!,mUMjDU>ipIUx<m&x^:MAH+MMK
  5sjJ3%3IuS%N1<d-QqGNSHH*)R=g$M>wOvWz92tllaLzhfn^Y&r8roBkkC1~Zvk&VL1n1YxJT<1eC=J;mlAT>0GmE9E88StM8
  pf9m*2tca;,hqWtq;5Xmr|Ta8>Xu%F5oQLId*0BgbzfX)0!o)?~_gq@cZBwMkq@J5&i^.ohA^uc!fLnqa3S<_+;gci.;QQG*.
  9n@Dag8UgjQDyjRd$b4Q+:W@+>z_Jt:^yM4ca~e^SgHS1V%anvPyzitGRxk&mv@;)q;iaKSwPoktkv*qfw^%&A&?uyD1S|U63
  QwWGhek*^I%LJ)p=m|1?j6<v3c,$5G~bo$*y2mUVwu9g5A<vjPE3GI?$F0*a_-KIX4,=OM*jWR%kmTEM8ZMsk^zPHuojH)dZ_
  nl-dUexpNVLT6>$!nkox&>&q8%lntSm+jELztf,^I%n~%8mQ)zTmj?usyd(wjX$qzbZMg_,XyBpVOE1IYM.SwH-E+sQE4.2UZ
  2TK1y$+q%6jSS7x:f7<%$i_5Skz|+BL=!Now!;AB;?.2t,Zo8KbWIK~L6.~txqgin*yrx!+MeIP7T@77o)-0(tgiefL_BVH+q
  ~^RPTxf6X!ErUB|>b$GarLSaZK;;vS5OOa4u~55$NRJvnn-+zp0l4Qr3_zrJ77|Km>Sv~o65JZ6LHrhYCcB)w,GxPDFzg=6CP
  |dG4PQ(IW6>FSi7*Bd?O!LGAud<.^UqLi39N8nDadyTnJ:.Obo=VB*AYh9E7KgSs3P*!RWI)@+tB^cL-o;HWI<!OdN(VOO5cb
  8(!1=K-DyzW8ivKA+f_dc~,TuGd(Ng,bmrYdr;)^$ntca1guv3Jy;-3JHtw03u!yI8V?PzVV:eymx%B0^yF&IuPHYLZC5&ab3
  vLRunbN>@cucRkdA!<?87NiSl7Ro:U?@@NW*B>=uJPC&O(cLoqAPeFMP|v3~%@@M;_-iB3b:K_VsC;_~XV&k,bi24hZ!D@CaZ
  4xXlm^TqLeO:zich)?9?N~S4^d0_qwrs>xOkYIWuP9J>eW@2-2uJTyX8.?%S~4b>F(Y,DTUhspK($l@VFzjhytU8-CeydUEXe
  zDA|KzK!nC^peGu^8G+~Xe8rq:ydTzdl*q=5oCP1.XQ$s!S=Rm9gS-23?6%S:?nf0ayK%IfhO$,eJWRJnq5p>w:hL7K-i-JI2
  %A4DVsxf)1r<q*$c>d1bYgPB;zs+stfA*QW-JHE!.AhOw_H)lTI)7OhCb%j:GZeEbMx7UHf7OF;6^7(Te2mtX+AphHY2y*4d5
  pac%tlEMA=)t_e*vky$EpXL4le;K:tW1%Sk;-e|zltcm6$<:-KljoMgk3GA5RfD^nzl@3+9*tQ^2MI3tW!QIz@|F&P<W,afYn
  3$97)-~cdiyMdam0:e;BSnV9iWSp0!V^(0KGQQsqvj6=-;>y90@JG.%ix_:MOZO-jAW.&H5ZX%J;j(!z>Rus-,WyI-t-GXWfB
  .i.3ynR@hL*Q_-Z~2K@Ld0Z&.^>.|Y~KfZc1^QE$enA^uPxnw3L@*V$dAFh,.EX1iz9l+x*zEpKAAKR.=dOIw1e^%~@_b2Q?p
  hQt:%U)&8<AvFlwN*n_)gJRYOh7$qb!shEY$*l5Vb$cB.%R|b0b:T5,x1!Zlr>1G3eDP1Cv=Ikw^rj=+a)@d!vBc&E9SF>54e
  u;zYy9fF3I,(U@vi4rbSmE74=oB%!a,8w?^(oHg><NwkA4qVUV=LUa)Qfm:Mf3)@ck|UTXCzGjJNqt|8gem%W%yO&BT&t8$J^
  C7lWYC17Lsn?Me~A!6sZnt*A=E;4lYoA(K4qj8U8&CFF%NF=NSYw?d9JBs>W:em36)!b-n%xGn%3e:88m2_Scd7$ijIIDglkD
  X_w<:v00Z|6vtGjv~~Vswe&@NjX$?Y|096|OO.x&2Sw=(9.u^f0$G-WNCW2&DLu0%0C(c^mf>J%1QfZ_zQ&I:dT)ev8*Qw*)|
  ~Wl(GA*TRts<+=R613in;VUJ!V2cFf3L=Q_rTz8BvII<sl3XkClae%(hVq:bAppu2Hz*jo5H267hL$7+izeI>jJy8bQ3hAloW
  Rh~2Q~WZZaN~0UG*<cM?iQU%8FPtTmkAUjzIEf~aF5v|i,h.iR;z@fK1.!1|HDuqc:!IXu(?aPBw-7ITUDmYR9MG(si^f1t5T
  >)mi*X((Y%8;l7b6L1L3_VY!3NN*~ou|=q6~v?9t;&OGR)Gs(Q)LV,BoBwu*n%nJIkmQx$*>bMr8AV7W^bN+rvVPJ8&Em|l0d
  s|o0p18xJKx:6dFg8ewals0X|Ja)7fzK.N?3Ku:H,R(jQD7Vp8,0q)3f8>s%>64Rs4RF!^Bi5Y6T=k^ihNj?XwSf_4^.$Z2%|
  u^,sm:<D;Q4>UM9YOQ4zGP$7Af<j9;,2(hskRkF6WYG!sXM28x>SM(Rr9s@Fkp-2DLTM4pn22pz?$O%E>Hp*%GR,fi~x_bN@o
  ZMMeYO!R&RhM&L51^=_Aw7-m?wVF9CZ<iwLKz7Vn7Xpywev0=X?J>*ZRUso<G*$EaTUYerSDbo+&uWH;hP3)crc)$7=!)i~bf
  KLEubuKL13mHD0V>u^Uz*qLx_kbBEP9o16Ln%U>uopSuRXv(YMV3C5:tGbmQ_Lht|glN*N7%uP$VA=fQPNn;=-g!*uB)~6pAz
  ,9:wm6b6ys_:76AdnjNvvKp~4:w>4Ktb?Sm|k9+>OF!xwEyZfc_em%^6jEn4&u5OUAj:%Z>sy4STA1VuQBEkgero3e|G4$sT0
  -.BZUy$hVv4T7Sj,6xldfBoxr+.P2:KMf1,9>)wjkCMLRU=^G~=+S-Xa%S.PE-J=;2m-^@r:,I3dv~Couv6rMp$m~,-=9-qe2
  :KFiv*C=^KLuJbOH*d,X,.,A9^V.bSxa^Xs7F$h:v|=mv?7*k>Nkfv$QDa<aOWaFsB4Zzy%%;k;4_K2y(4$bG-C0||x.|4xfo
  MGI%+DH?(~mya:NJm5=-azt3G_T<Z*cayqf>-dK10VqPtRdZfq9!%EeMXp,gv85z!Q$+>fkL-7<Sfvw9U2OJBN,xpXI2*dGKU
  oZP(ECzU<hJ->uf~Ca94+hSIL$z<me-Jp~9Y$uin-*b<B7mqX3uj0C!)Ls2sV6_:V@-N>bL?or)W_m(pdjqq^Z1qa~jRxr%?0
  OvjW9kw_hY:57,8t0UYQx>yY&K+oKe87Xw^QcCXm_0iqRvl(8_&%yb.^@F7pw$aKqg$QK|A7)i51<M-Oo?AYv-qzs,K)>,T<a
  qPCOqPT1E6WrDZ<P6S:MO>7$G|V8Q4Zy?-nZ1i%Wt*EG;T*(W::X%gHB=l0B-7g,A*:,N=A0!kk-:!-0!R6|%MFW-crcz?n=K
  hGjI(L3iX.17|nZ-|Qq2OX?jiJjEFuuJw9u$Lz$i=%kns39%WvLoGH:^iTNgV?N58c1&._>Q@VvM,xr9Oj,ysu^Da@BB;MO-2
  o&c7jsz_%nA=RZy6~t):Og>(S<A7<a7ozLp<kh>p3y4bFubr8k%Hu~34E>!(@ao!hUdF<FQuK2J!Z=jZOBN%D~hJ8L>Ccq6O&
  ,4+;Z%eBDYouF@.!?PZ191.bf$5&@$@gy.eEqldIo^P;.|G=KV7drrrxBh<%Y~c0zcfm04LSnAy9:T4%32kbJ_=NCcv;czLa%
  |N-@2VU7jzRmq%$D2hC1BMJ_bvI97fj~DXG~Gdd74Oc%YPCFQ9r:*plvGI&zV0qxRloSO1_%8sL;POt+>+HbPKD)f=?-rLN@b
  lDxwg1o-Mm1~4W|*Ur7S?tDIuzt_U$b!OeaL(B3*G8G$oL7NLbt2.yEY^h7K3;sX?onSf1&i|&oRYktfQRM:*X5alSm;?M7_9
  iT-6+NkhHglF%@?3Sa&;lXz*vMIsk7~2VCGzW(>o?sLOWU:1Rjkp8HCu1%u67JeaQP@Tb!ZkB!^%csrXg(uwBf;k?!E<+a(Lf
  YOi;dn%CNDqx~HuQSTePr>Qu9SW3I6HBEj-bP;8Z26|~OVinzoY1xxik=iUG:o-1Y4~Kv$cIj)t2bG@6;~QF82c*TGAs-j25G
  XV;GC^a8nBDJtlDt.^wzzU0o4+wYMOFSm-6@&:HP3Ug+K^xjr*?a@2TW~d3W2oNID=DWy|Af1V-mkZBj0RxNL|1njIx,acfOp
  3c>V0TRHZQl,e%;z0_u%>!H9juG;_c8Dj:q=B^$TrrDfSp:.pRnk,uV0Kw|xP=|E:Zw87IApCGMLs?Jp%u%$TqY5Xi:,K7(AS
  w%MiEm,!9Dw~.g.FaNSh2B0^DObmkn99Syw~qj^C;ig_x77klfM3,MV*|Qd4PNAxujrWDECpe2_6OlL;q5.+wMFSF766H@_B&
  1Tivg2;h8JFZu8*T@D1<ukt+F%dO3Q)+Ctw6K-vOzQg@(saW4|*sN)6yh1Wq<LF,IQU)NRsVIkwoSFYq59%w<aT_16%-+18Tv
  kz3)arH$MnlxIZ~-rt=)Jp~NhsjPU%)jz~77XA!!uCOMx3lu|VZcO(hlrPTbH8c;31+Q1=Jc-<9GW%oj**9=KU@puHuIc+E$~
  lrz.BjD3rAdZD6H!vsP?irPz@Idx88&U7g2<a:5w<XVBJwSYn~cLGCKxm*(nK*8YW_i-D_50F:yP_TXRZ+F<cqto.@kE!fG$s
  swM$g=D)-fyeIQ94XM$0BNjvs;R0Wa,):~&+t*yDaPEe6FkGNmxn3machUPUWJuFwxg9cplAProe|OKA*M3p+p82?o)Tt?.t:
  k,w+E;Ka0Jr2v+Tg0^09xaSi.UydcTYSM=1*:ZwJRFV(61vu8d9rMg+qN?E~<TfvV&kM-;KUG4L9*mLoONhQd+UNN)7HXEpKL
  owQ.1+sA$924qm@Tt@_CKEKR_LPeSK.($jV|z-pD~C7<XOD&+9kdLXG:3&hxkHBW=a!Wvf.p44mCn<aR6a63O9,d$2u=2*,F:
  ErNW8+qp5t4+pXACIhJ%6,i2D9M!jig1ZC&jGd8bGZ.^c;fgdVV4aD:hz(:rT%AVkfv:!Dp_~>J|2x=P9v*1%xY(uheH6Rca?
  |l1Yg1lRCr-jqJb_v1HgDTUe6|5M(:MZ<!=+sNtJuA>^%eu_u9X1)i;iCI?OJLJy~d*+*+7rXG+b(GE%58oub0ep%>~>;ZMZ7
  =jl(%7pn^=bK2uws+|cI:X+Lx8w:PbV@?tgwvgi*)<)%U9CV<b!!q<2;MltE;$HKx@?G!p&h42:+AWS*Pg(h+_aoJ&VqnDqb3
  L-%49yHW!^0:OW<3uz9c0k5DW7c)*cvKSW2!+6bqYs97vk0NMVA_&AFc?&LzZN)ow)FjpplJRT<7MLIIo:|8OaJa6f;^0@:gd
  (&b||NpbRRWKWBYH<~@pH8SpBPQ.1Nuu>bEK|<@B05)P;dVx2VjZCg~I6%p9TreOW3lF+B2;Zg0$r|Dzm-0DjY-xn*0wOenQW
  *)=5Nd0s)sRdX6Dwv8%+joN=u%viCj)2,198yUMvMpaTd!avrt*ueF4c!1lI:yB@Ui$$lS4unl(GUSjg:,QV(FD6Htp~!efeg
  l^6TLGf*1JVoe,>)H%<6tEK7q0bg,P4?mx_yZaxha9675GU~t|xQSULOT45+dA<az&&:Lie2EL6*~:U1Ta8m(E4qhemzbRDwv
  ,;Y2~@)i6v&-fhX=kxov>;Az9raJyhU3,_4WT_Ul6A-y*UM,@C.0r~anXQndT~_y81S,+H9rZ82Yn!Lmy<ve>Dh$)dIBoLsM,
  *l>os|~n&$:TeW3qL=Zz$NSZcIlAK9*D?Hm:bV6k;:->EEX^l;F(G3fsz3,nSAw;@(:4hjYfgljTbOV6eC9RGZVIfH;i;?hH5
  xZwG!paCpJfw+xbw8:tLvoA|0+WMi4Ed8y6$B9(TB6VH;EGCS%r4t;x(.|j*d8VF!Ut8$&M$c8w)fCx2A-Sn,-T(79&KunbAX
  8I~-nN%($!l:3:_~+aFq^Z_T=P-_fBZ~0:a;i(EutpSIE0l.vp+yx,iQ@4ZPKioSIOv9,<090z@6DyrM?rQz?f6Tc4o5uQ,KF
  (Q-0b:WIyZ+bmbki3nYbQV28JeMTb+NcV,m4+Y0ON>5O&m9dmRmYY=iHC8V?)@%G66pc|;C~gT(FSu)q^hHi3;^n.1k.P0YAK
  |RL.Jvp*z-<b1-XIkg+OK6Y:nCluK+5wZ(BB(oz3c;+4YD$I4>>f2N;<7:~_0P0X>FeP4Lgoj@><gux8RVsf_ccD-Z@j!.VOG
  d,KP:r.V^~5:coG(?o*gZTu!~k<Ekjj~>dT>Ij:vE?O7:.pp9Wh!lqKF)w*O8$8i.*bKURjY8G2Bp8UzP*kYTWSTExqwK-ZoH
  >8EHY+Ug$(jvzwSnYkf9pnc@bR+TUihejw~.=8g%:tM8oK(;KQC$!vZJ9H>OT5BHkMV+Lz9x<Q%T62AF-Ts@96qAy^*yHC_,:
  9s6;f!+69D-Mck89H0PhAQIZp*wePSwsU-8dAQ?MpGOl686U_U*SR?:UinZ55>yMe,OKA5np87^$$)nAB=|B66,R^q7~c($^6
  ditXz~Lot!MQ5:RX:RT<9s&|9DNhKGW>=ET|07az2zf5Y+,Fn53hB!CjY:qZTtLY+i@Opdo0;_t5;pOs-IRNwOU*2>I|.OhR:
  >^(98m*.XzPZkC?8Gp+GieeatT!g3>Lc3kg~7K>!ITB_biShdo0!L.MDC&(Str=NyI.7RftN7C%UrzycAUFZ6pu8dIvB%(:Jf
  ut.2d8p+xDdZXnp5<l!~inKihO58yb2wlM)Ux4KcfrP~4GtHj|<EeAcG9Yt,&iD*,bjJPfjG-k.Ki%*DWSp=P,JuH_01W2|5n
  7P|<rp)=(%~0t4Pj|3sDm20C6eB::3g2)Rjb8u;tYeH.Y<CJJgOQNu&+gGwu6=BkN7XHG&4:KIky2p>BU~$*kfO:xsMRibS%o
  )^|f2b:znR;(8>K;OrirVfEi=W,s3cAdv~wQG2)bKyfQaPoLpX_yGkrYP9J3FN+Q|h6!WMxNVnN^@ht.VIzSX,XQ@Ed4nnr@Q
  Ft85j4JUH|=i%@ah>PiT$77_Kc3kQiJ?;m5t+:x^uUfy2Wz0o.W;)D<1_<QE!8ZLrw$Y.Uvm+JMX*;<a0~-@fn(Z189T2jNz0
  j-wbhrCP@in5hVsF8y+g_?Y!Pl87K0_k?0s?M^XPo3R5<~>,zybpf%K60F8KIhc&p7mBf>X1Qx7ic@%aW<&NxAO<f&oQMjrBg
  7@CW4Kj$R,0h!@eKuwr<j==gzqiub^5He;z5;h,N9t1>%(a,~y9Y.zNwuz?d-QBr+D-Y,K=k-C|RTt0Yh_(sI%8AD;l_x=1rW
  )b(6rGSQDuB+zxvM2m)2T-EafyJxD&xlB!S+uBvoS;6d$EKn+w?r1Xf)s7V%pO~f0Ef_i:$+geV?5vvNj)!tS&d:VSq+,!DpT
  ^uqZ4vH<8:eBQToG:3uq+H?c^lmnY7tP|oaWC3q?HY4)o!%P>m&6r7UJcu?u*XFj42ojS(G63DiP4,L5ypu(ip97c@:GYZ;w?
  dusB~(Az20YI&i&4B+n?k,AAl^JGH=KTZ&PazT629IF,:<^*p;F9DD):DO~JMq)gBt*&&NK)YPTS3%>upK_pdswKSN-r0f;QI
  :ink;ZfsgwPlW5:XPiUkofHnyy3Gv.:E,N49YZWR5^uI3X$bXTnp8Hk^zo.(m*M>RZ$zRcN9063=jBHY(abFJgmAq$O@RfC2w
  rv*9&:6V4J>ZtoRIX(TSEi2Q,EXvTL0xb.%3VqL,G^8oC&UvHnZ:>H0fZm%~ao0C0G|=207etfE~_92S.LVl<TbZt:b-Xqniz
  RLbd8W73vS|CdTrEu,5Y)O4FO5:P5EgCtFzf;6@>$>p9DK|XpXh@Cv>sglz1TPvPeSX2LVhoBXV8MD&re8:UjbmYIUI.~a&Ql
  NVI>1kBT5~QH?6M5NIl<TmV!qrdIQH73*aa2,g=&2hwVHe$2^GE;W7UofwD8>H*8Ugefj?;=9V^!>c|)t8<jDNxD5q;*<,7|k
  I(&fIQy9KEzJYhRBlPgdMM3HIU.,~O=nap=,nfhd3GiZDW0cdF6s~diE;Xx3TV1!@Aa6UYZ@tprN7p;dWPN,+(b~f%zDPK<)6
  ==zK|1IR%ge%^Ji>A<gmgCqm1F<gc|1fTuU6w)LczfY8o)-?sCiy*kL@~CB(KADf+YZ<tYWw*Swe+YhT1%;5qoAJ<lg^D?L0M
  +cy290,,|HzG^yKtgCc8&pm8fBlwPv~rPTRNx.orRIBIGqB%99Juqk~WxDLW*bI4o(ksk,G$=i3Dw|I!yY.,D)NBaPsLIht*z
  >*inwla|qmFXYd(Xo%%o~e)ntT^Swnv+8y!ZHaksgpRw9b4hXJjWDg.o~o2NHx@<HJS2gS(Q<tYJa@~_rH)aM,v1*I|vry^_0
  gMGv3=;*).$&P:))qjbKP(%<P|Zc^-q_JbM(PT>mm2+pu-N-qeyX9yl08,MmSm+-M;dpRdb&CX;RisYO8pzQ37H!EyztTjRsL
  6nW=,2@,FT_E=o:Lf9~-ZHV*w~tkH1ahEdpjj)nmv063qADbfcfX<Dv?<Bn$S?56bIK|6m:U$s(rGfckpg6oI<^EWTg)9M|;>
  HI2TNG~0AbaGhFB9|?Bf$MuL$i8.70FVLQQo+eWH1M_JU+8Uq<N2Y$kZKo$Uyfo$=nKrcCtUyB%(l9Von6Rx$)WI?FH,=E<C*
  6xB^@Ep2T;RD:tUJ4h)$)kmt07_rTvkslIRb9=5C:U),,eaZNCl82E5EY9fkbo9+c;K4i~,YmfLF4!1iz@54DYq4+TYnPB3hq
  ~:-MP^BYEuiyNn~:$4Nki?f~,.Q6yidi*,YOwS8T?*m6I:gDJcM7F(Z*0g?iW!cjLoEL=s0FZSAToP+if!tZepdx|CS^J_G>|
  xoa4k1%pK)1o,E2=*~Dz3O?95a9-Vxk%7ekUWT6*L2QY-mv^~O.796iEv+xn,|,Ng1O~tmf:q76v64u1;*oH34,ZXE2*>tb4s
  tt2Cu,)hDZhz2BcR$o|KPVB,do9<cFGcs$UI!k%BAR|Z:x+=&?tKq>%0)GL)Ab$)GMGP8kmL&~6b@,-GxLg;NKES5D-J2x+ml
  Dku;hDAaYzxjOT8^AACAb$>*HQ.RSoA4WN<cq,axrVh7N(m;K~+Tr0RI8IHF~avX4lM8:GS6_6TVPb*Ag6uTPUDg7@YQH&5t=
  dRul!&X07)q4f*UGvt4lrg8y;c7c.?>Gtm8q,2vEe|E?Ncl,ey9evx$+ScNO)aZii&EvIa%1CTOed3C0<b2B.xfN+sxCo~E9a
  &W0.KK)$mTipKiN~tSnkB_g?3_xjzI,EH*AJ>>;<JyHt^LGu3@g)D:FjumqK&Vd_-7E$-v<FSa;b<?cP9KBx(G9tQ|)wd?iiV
  W|R4!Qsjp;~gAXdNpC=DpMMSDSXs*-?aAwr_KDIh_NeJg34X?x%!.l@R-D!mv~iTzTLk=lfzuSUI8ZKybw*w30(.~agAsd!:l
  <t1;h+fZ1GE:e>Nw=K+i2iY>!AHK9@K>7k&=ari5LF$koHFlxESpRswt*y?R$OaDC2*u0nv9j8C_)-37%k2<E|pO,&P^Dn&$T
  C<qAJQUP!&vQ^kvJrPLI>I.Tp>!krPvjAvc~SQrp8%?ne7yNu%PJ8(J|M6U4V:(q)$q!:~EfM?eWeU^X@=*,a(G)1(^Nu=5|.
  M8$6fw7+0uqnZs|?@w,NnJT1WHk3bR9fhOUYK3xDQauo+_RrnGYPEqbZn7:+F4NM$.e$Vo12l(|)Q9.FT.^Wv=LP4+ri?Weto
  l==y%cywFS1Q1Z!iK^WohlW(f?z0s_;7:Nr_~L@c;C2d0Y+pAXWIOhDtvGpsc)h8k(1J?>X<=%~(,hZ<=.?;fg<MI_hYF&+1i
  lR;=z;V.|@FB2P**:WSHufMex.wu7JPM.___~n:DDkIYit_hYaf|Fu8._aa4^M-llLdq)*!!RhS+C.j+OsilMz,rg=aZ-uh<m
  -R3N0=dW:==^5&&k)o^!.cZFY<P<$&XkhLYA0?:Wa~4a6?%ujZD2$S!)zJ5HM+KuDW54-<%|d>rL>ZpMBCb3)1?Lvu;nxAKMS
  $)RQYm08Q=ZkKIvQ2xRGmn28nad;tamw_wjc~PKfiH.q3bRF=<:Z&1*+&4%Oh9&ZU;oMMWBAfDDl,X.!LuMp.@yB^(2gFY_^4
  xvUC2_>z+()Yt)VIo)s2JYhZ8.z69c.-i|+tRbIjTsF@gK)wOt|>Kjy0:U%AcD8(u3_>G)^!F?UD?u+Qo+-nW^=;0xuq9yuzT
  sMO(BzKA,UI(dP~XP@_5o&2bgftQ.kt!Cm71b-xGDzxjh*G1e~(GL3E+LEVmXYNse(Y%nCpe@-<n$|BtU-qQDv~pSQO(GuC+M
  KL@jevwluGtUW9bcW4E5X=o$mTjJ,0J|qe4&_eA)jv@cRNK.P>B<nT:=pUfvlXH<LR;k2d3^PSTVbF(e%EVOv>jBB1D&I1v|u
  2>tm;fwAmyvMpE|3;5VE~RYe&t^%x0HP,;W?:M?:M;LnEN.MvExdJ>Dx%bVTxtPyz3HVfY1t|YTTLRa<>5ZeAO|wH;Pqp8fi<
  dm&ZD5FhX8D2(5mYxJyxS:j%sbDo~K6Ybg>)GqfL@<q_<2)O9=%ScenC9pktcKLSJ!Xs27CfUlIiu3U&Vw+-U+X19eetY?X_G
  Do9=R5^<96dAFR?wcrJ7X.t?HGGYt|jDB<=s&w2*.%$zbt8~Jo4-8Txay@on?PW@jCo1rS,KGP_dYUw3I7~_%V7CpdBH*4<rv
  op~JJDJ%aGdC^LpGS<;a0Mme~+^T-.++KNG(ap4z9m2un1AtFST+>aS*m~EgHhNYhrimV.HI>aC<tANDuO:+Yb3lC=p=wxS-s
  bzq.z)VnACJWrzEoz71o+?k.LdMBOsmhlTES%e8FizTn8mxN>tM!^2LHS;&e:6IY>CRM.e~s(gL>A>rri034GKx^H&?Z2mUkd
  6TFw;qYVN!.ZJzTcgTUYwE)JBqQ2.Um9|Sv3&KXcRKAlx0I(bTCBfu(ct|04uzD?!n41;1&>cmf3h5~em3&@wd9Cen|JFkC@R
  TBQ,dnveZ&J(URJWk2e7X=7)^aw=X0>dGP<^Xb?,>YK2U0&!KIK+_v=^w4;Bn=JzXrkO<->7+NRw.Z~*YpubVH:O)VEH?a.!H
  Lf8rOS^(LRmt7RxeC%dD*m-GQpti!._mgEu(wofj;%,Y^|j*GxKwo~ndN)(%!C_dMB!Jqh8dNr%s!chAf:rtJiu8CoP3^(r:Z
  FDoJFg7vR:JsR6sv3OIRArI-Dbd%,G1iJ%ki(.JJ@u6^CM&=TMJ+XX,>x-I-&sUT_aota**Pa|4KkGu7eYiV%Mq=Z*r7(R5sp
  XLeZTdDPM%4|JZlP3RV5rjHtq@sHR,)h<Ux?;xlfq(hj8+K-&5KX~w6px&q^YKnp|LNAbscXu$pVXjTe6rm_~b|f7Y|xAj@>p
  BA7q:qt7f8x3De:pEFp@^P^mk06Pm5!IIwV^7sRJ()jz,Z_HdHeasw~$Y,>(wLciO+35!H>2bO:K7GgLasRD36D)$&m8-v5Y^
  VXUMl~&:To2P9MG8<j^!eMN@*Fyr~(bSLZ:PzX;1l@hPjm8v7,yR2BnBA4662V7D%J*dsi,D|q*_G4rs7^ugr)O7-<JpWDdXe
  Qu~LPt^~.-XXo)0WFK2~rXxSl!o+*stE9O%6@%>%P9BI|?ArmIUN5<^ru?CXpv8,|mHwJtmX:a=<c_On(N40%**rNK<%d,d)T
  0?i5aae9:yg__5)&C^NUH+,ncjI1E)y%L|dol?Ij4XfA*$=l^amuUCqhsOMg+m2=~6@(4689EJgi,9B&l@e>rKjLPZK+FY-Sm
  bKDlrqwnmc.Cmqe9u.XR56PnfUh29+T5:9L_j^>NPpS0DhSgFciByCVyvKT1@JrQ-Oihp$CYQmg4rk$_%^eseq(n<(pas<$yh
  ?,i74Sfb>h.ItcB)phYx>5MqPh9gGp0OE3~*LL7q$Yzd*|.JFvRje+2hU4.J>YD??|fLy6EiP!3WK1P)f1!6.p>|F<)zo6kMZ
  )ev!et*7:j>zS^Z9Ry6L>7M|yD,Z(nO>fJWUmKJC9lEnKwHhS+1?0!7lM~=Lr>zrIgFLENAJ%jgLa%(W.UIx8&!&-Csd3D@q>
  n-r7j&KX8Szll7YT&G&lhp*v@WV<u~qh_CI<Uh^ExyteZWk|5:+Vnjq@xiUKSQyCGMwkbKqb47l^IHuWqY9H62-0+puv&Ji5.
  ORO=Cl&e1~qIt;ga?(KzpoWyyyYk(yz;URPaU_ELvG.PQWJzEbwNu,a7F1$!tcg*i&d_U!P@Smze6*A3%u@b^UyGXU(zwZHXq
  hoM-cU0*)HfpUadG6L~.V)p3|S(Ypts8|d,ziUPiTif?=:UGYVy;$7(P1W_n5g&wjK2Z,W<-4+5JWzM|oAf=7+MOHT,v3s>6P
  efJoqkhMS.7NFY.s|bLciYopdyRxzRjkD7X0gO;E6>^?2c*M:Lewq6@T(v2q>ROju+*lHUCCh61JkLtBfy6Hj~FJ..J,&4Q;|
  kqjfJU6h_c&9BOJXN,s;5aAs)2~=w=|C8k7j+p1rq<erPB<,&B.$isb;nU_FiHG%Ea<.VA6UXeQ:rJWHkZ4Nz&K-|zXut~w8c
  ==8x7-bUqc^TSmf1l(td8B;XCVX?LG0@db<2xJ=>Mr>G|lpws~aH6tjx~fCGw^GRY!VB5A1(=Py$P@=6wUX|Ljn^!1@sNELvB
  |Itw?t$99b|gZKa?,7^a9PKs>b7A*NDZvCNLEIQkW18Bcyy89aaZycxWH<xNRB%5gY&=,R(g29=5qby?VzqGr+UVG=YwztF+d
  (gTggF$7qxLirUr4$Ic1RI_thIz5lU)H(x=2j,ho$5*+u4Ddw4;3?w3)h.>ek<Oz!Nbk3T)LVT@zkc)SRvt0L33itYewB7Ah@
  5Q)<S4SWj|UJ!Sn::cQg_*Y8KD~jx!iqw%Un.,rnAvnRz^l:P4V*4+9rb9M7Yq4ZSUWSVum9bl;SI(756V?h?TMCQ$h4DW_32
  68J0e3b9E=l(|k*|qDWeOAwhqAk.n;:Yu53Vna<o1?k3%8n)UZ&,sm_B-axW(W3$_k1DO^(zU!fo:)2%l*ZsPFl9H=V6Jl1^o
  qVnqoHq6vbx.O2DERxZwfP,NhS+k&o.-S_0:xQZQZiKlIHxc?fpQ&N&w3hoo@Dw+FDk-+_BNHTFH+Yenr6TNLE?&rm:WLdoZN
  dS,|$SyE_+X)y6c,Vl(:!7!q%6:@IQ;s>~~*a:>d|.ttr3krGP7db<Ye9JeFas3=fAM(V_);(Z_Ux5j&.U2C8YLnunU5Z@W6g
  3U4M+tt^9Jt=1AOnz$gM48SdES2):|.M$QnAtDL?,Ab$m->%G6Imct$::XSple?BLj8tknPi=Yd|8gDiA!@G;9FN&oKn&hEi%
  P@8I?WlQevG^V&XRD(&VykBaM;:%QB7P2(gic5WCN1k6*Rd=>4^7sZn)<R.,a$wx;-r>cNwOAQf-qlSk$CGr7Iwv&!1<<~J@%
  jfh|<3$;779*7(_J!off|p5@7|3no56?<YQImg:x$HMjepyeysueFL8n:Hg<$|(St@~Rxrws68Ij,G6t0|$h?Y)k$>vLE$Zy?
  l+=~I@2vlD<l.kVTU,;anx|-MuS5(aR*uCh.QgqCV3cLDN>e(E^H)+VDsXDRbiDahZ+wgw5*T:~27W<7NH13%Sp0y=2R+|qfk
  z)a)i^U63fL.y!-@Zfg0H0UNFni*&;1b%yk1z!oh8p7bkG*F6AJ~xA.m+sEqr)vhDWVvXzw4;qh1)z@-R7G3vSX^Hi;j-^B5w
  $9:BF2ds&56>,Q=:xyJ3Zb$yykrQZFow7HFS^@G$3b2Uo%BHGqx~x_Xz-,.B8TZDTn+ud|Xje+|vMNE>GM&%?xSoEA4.1_jYf
  @*%_!cS!umYGn-WLgV4el5LEX|_O<vpOb&h5o;lp8l9j*m~eCPY:IRgVVSR&TaSK+Et*AMyQI!HC??VOmBHv$<2SIlXF~23TT
  k9n?lIq6_q,FCfzpTHCmmQOKwV7vhqRoeugLX+25fqJ@:.:*VN,(F483wVr>n1zXjnd:H8%4vuJCrp73R+&!Z~AS0Bg&+!rT4
  ?+FDeOWY_Rz2;G-Q=Z1wQz5YXRN+Kw04A4Dt(0Ah?+lX26@IM2,Ez7:aa?;BB~fUX!KeaW(jhtsrvgq6J>Z$4AtwJ$98.E(to
  &Loc:qt<5Dli~E*CCK8j2Jj?(lOEg.q?5..GKDmdob3^$KIkBKnYE|+*Y$y0*$=Ban%Sbp~*!~~^$|4t!VOX_tMq@wi-m8jVu
  f.5.V$:?|hDLL*.vM!:V~qssanUM+n)5MarZV&^?|xs;J;G+Nt5bsF>@Ns,-si)hf0_FMwQEuZzOInMY=(e8RlNy-g%f.Z+vq
  $(-L=&(>)yAov5?dFA>CNJATHli~zQT&pLSdI(Ydb*_==hHyKw0*Z9kfH(MF2z+)+Z6,WvbhcQ8XV=OX$t&V3WD.QGZhnpstj
  q*GViZ6&in=uaa>PAJMM=V:-lWw!)c9<:Ttqjl!7lDhTh.iPu8ylvnW|z|xrLO5N7>wVR6tY?V&@=)wq)YkVVX6^@tb|W9YEM
  ^om=8&Rmt-+9Mj*:H-wygG%tyqvn?L%^:dkA7:_HK<t$Mhc8febxKzOT!Y+;2S~TFotsTtaigE$m;arG,T|~)D9R;Jw2OH1gO
  R8iQ.,^&Cl6^@b_GKsEx4NwcUW$UIu);:GPP@JZK(C)NCMGlPXB,cI)t1cY3zhk|?D?GXT3!&d=EvpL5P@-=JD2$3TM@J%zMI
  !0CFI~5xo^sT).B6;;M.9YA>Q%T~w~Pok9fzvkTWSFdcpK-=v18zm_U2LlOWB<2NfqL&,L-qJio-S?<+E=FT2LN:Jazs~L~y4
  dsa8_,K8Eap_+=+^>9$vJ=&<9o5XO^t&qY_r.28@94Us.d|8fH~+nSe+mpgtMuS3Ju^OZI<2(%3.wTqRDI+19>:p!ISOX.~iN
  w,ejod??U)Jk(4|7Bx<t$gp7S>oZ?3ZIQqE9=*uf$jP$|k17k$.Km+PQT<ePVo<X?;SFSn(jZ,Lm:cr^<AF1F7eWnf=jfspkD
  LS4QM@XoY-,g6V:m:,8tH?$fbrqnEYbVTVHm(u&$U&tuXKG!dxL6->&x8fBlE6xwNa7y-Me@9icjC-|MZP)f~12MTaxUG4kzf
  8Vu*MnMwO1i^V+C=4ZaYv^~Ob~TOBAq5EM>QQ6SW>%.uwd_FVPQ1!>~zPMwle-q@edGhj$d|Yt51KF6_gHG61evdibPu_g$@f
  Pske+0;$o)DvwK&)BQp@+J0j*^^k<m=ca9Bv@>6-g$-WKctclgkx!D7FQXE9BuxwWiH^X+@OqdlJRnRlG16.(eQs%<fVtwa*z
  u>>ZkW:SdDPADLEpTxjHkMsy*AehMbCTvk*(K%H>9Xuwl$5C@jojkrJ)xNM;e2:OP&XM0)z(V!mHn!$x&>OR5ZN2^K,htVX14
  7HAk;v.M+>xpNCrtc8ZGQq-TwMia>q>PtOlT_ukYcVHS9Ou~yV3@mb7+eRA7)<Lo&EpvA>f,>S4jnozY(v0Lo7lLaCEVKr6MB
  +Sh?E$3B.>Y:?ZhHo!+;9Xk5rx?EIm:T2r3pp?xCeIfpx)xN%q0(Ay^.SSI,xDmvrTw~4u>eVv3ZyNn~)l=8T|8~I^3AqWuvy
  3P|.Yz&?o,xmW2r~I>FALbOU_t0>_d?x-waOKwkNZLnU_O>FevdAD(PD0nwy,yHT(u,NSir9xINCzRTWL(64DP4Ci.Nexhh|>
  z7L=K(=Zp@KyED58)1*?z~Kh)M1T1Eq46oT444?+t&_(hJ8tQ=7Wa;h(N7c(jo-g^wqwY,h;d>|=Z57.wkO0!8:~vt^=-|s=m
  H.HNp)bP,-zPWKp-J2wib)+oMH;DmYIMDI5eE)|wQ6m3sDDq%-+Zp|nvnQI+p_fsd:pE%<RT$3FC3w;5j9ZQk*,ZPX=F&NUlt
  P3B3!+WRlnp5SPb9N<?p63146c79-~PnD3Lq1d&_7|@l4Z,oj3J^L$!0+H,HFiTgyXy~snXTwj8)cga$>M:fI8^jqy?CmM@6j
  Ou>i7exH^@<V<ZuZ?.kE-hD+KF2X3~Y~D|oUJu-t68rERK^>VBDLYl(8,?fs.2*TCqJP^(TvgDl7Sawjb9(7!Db5Sp2a52WzX
  j_V-8ferM*7WQWz,fqBs70,pWNXb)naUtm?khT_>EXS1h7T%?Lf_&XjI@-_y+mCmn3<Z_~:q!AfC~Zxr,WgTNo4f0S3Ojm0Ht
  RCRIwn_Brs3;<d~We+S,8C>5XwAO>5XATAb%0BbW-q4VL2(.M|n8&L-v8Vw)Nsl9vF?8Vqw@FAgY~j%3K=)^XF>gVo*KeIWaz
  zvCi.FXpNu.fom&QZ9+j-sKUBFl)f(~vr-PMKQV?f^%e~3%3$wX.Wf-JU8iewO~jX3*Pz,t|IX$D-GJPBA*PtO|1gMFSX*bhD
  Kp()bRTypodqFvftt$DOVxbV|.5fZ@@z*Z?mX||,143Dn>nDeCK,4GTbP8UVa07A(l3&YV*z9sGkx42YGCzqB0hs~$O=gT<zf
  4!)DDIYSQ9bSsyo)sFUveNrSlO,jVBBk$e8L~5eGlp(.8_zNT!$O$%)LIHJ3;ky%=lt1|J9QAiy1(NyX4rNMD-53B~2W<^;C5
  $.iXlEsUsW+d(*etz4aYV=U)Ac.3s&bm.aI)vem,-fQ9*Ml~FNB^?!cVLEu8)CSWcaS8vm2B+o_8kYW4c:sRnlB!=@nnOzoko
  jNmoAC0b)x=.ks_hXf=CL+*70U0&u!qRV.I1%haj>R<<@%:*u+ECo((NsaATee~t9L(qD5r8U>aKM@eDQ%:s|w!B<XtDH$iAC
  h9uj=I60i2XO?2U3%L*90Vkb<:xtpiOq6:V-W$%MkX4M!6XX?j95%h%Pz(Rf*$NC^wA~e.~_tip7&E~q!L^zhj)d-$NU9tbQW
  A$jn97t3U?HFi:Y6M;GuIW!N@mCEK~9^-158d~NbO39uK~1,iIyLP+eJZob6inh5XZZ-Gjerh3FE<!T+d*ZX$nW7nLm7k)%zs
  Fgt_8vd=G^wC%w,WXR<=v_F!-s!8?!M**V6Z3f&jK_l)$*MmR0A2zmL^$HEVeh|fgj;a><aPo(UyI)0Y*-C_Lm8SNX>^pQ~>P
  mVo<3|KLMBr>|=7Nfej94lb>>4WaPtqxV*.d;y0*nAc@BX%%vD1Z%ibB(j;s3Q$%h|>z7G):l,,uD14P25)7!z,|72!Q|I:6&
  %Z>jVnQt+%EcmyA;<:C>J1=?v8RsI-OEVD%L78Acly,b=5MIE>lRK<C%yRf1=p*(M.VNiWyGbGFOjD1=EAAq1a:)~i=;IoR%5
  Y&zXk0d<jxC72@OogN.:^e|)M5VHaal)0qyjq:<Hwa6la%B&k07<4U|g_1I(L=EA)2dG(08;>nJ&&^$:9khRq!|Y85:L:MVJK
  A?+Z$GfDml.l<?eqDEZ;Px(aS5?bAvk@awarl-6%GWON;~XU~&3UA1KJMzN=i85rf-Y|x^P0nmjpz*T16-qhId?sOn*PfS2iK
  YWyQW22CFp<ACaVm)NaE5^ItOoG88??X*=i>_tg;b;k3CCXKKq,^eGhRA*RZ&&o7zRe;4)$1.tty7u0JGqVNqcwKuY!fA-!$g
  cwPZ=HI^JBNxx$T?aVbQi1iP=&|ccOF6Jq:os=OCxCr~l2ZBYgBT~ccYdAXpD=|)2(CNG+KrPgW?T:y.)MloH@rVh_(=b(8?=
  l%LSm15&co9CKUy=Hv8Fy%JTw@AN7:9xJs!0Zm$%|KM(NdEFS0gopg&>~j6lV<Gg+!@$R%h)GS5b*i?0:JD$d^@XUE-4%u|Zk
  wr6Xprj=mssYF_4eZ,WvU?;Z6oQgQo;%Srwfp|9-?ve%q@V.=-k%*l6M&V$@P,u^jeR2vNyt+O5p8n>F+aP|el!3>=4Hu-!Yq
  l,u=V~jp2E|Y74!y0pt~!j~;;Bvqt91<Sj,$pcO<q=|<l);si=l=Oh*Hu1M?(zK5<H)=eBRpfMAO)xOe,H;R~%LaJ6YNWN8qT
  V.=Cb-^0>K6>F;AmsZ?M(f?Dpdp;O|&|a)^4L@K&r8o:1GVBUcGo,M~Qo^(C1)khd@=??OS6vYKgkxC7uGI<PD:|S;O*sQcoL
  YsO$Px>Xki)Hz<Z14x%i-?uFCB9m:A:%L+:WPAhq;)41B92dOcj!feh.wDMK(tN&*Kd9c4f5_&|.4q.(Jiyy;s&)u7NoJ@Bp:
  ruA3<xYou;3=bg@9PvH~9_8Y:dP16oWeCCSw+-e1mARq7qibTgN.tMQQ*97FnwOp&1O;If-m,&eQ|S2o:CTR0T5B.!7ldUKU.
  Go|@Q~2(H0JUwx7KE_(-HFa5slNoQivL+=FaE_yWwY3n@J3XmGu&U%Z9DA+8x|WMo@8BTHE*h;+ufBoZ7-l0@|RPZQJV@3j(,
  Y1Q2M9dxQ:~WYInf(l+ph4g-|lmi8<Ek6I~TLg>4V^N=VpFc1;0hE=4ETPkUI>4f9k3Z$(%<;gNHtKu1yLZ>epR7fsKvO_MMX
  40Lb)25OmHNYlm@G^=CkQPqBrw73r),h@jn_CCU=iWN!5QoNY+eeF<>voCl6T>uo*Lti*%k(d>;:VFY<SN|7rbpa.&6On&a~k
  3EE:CPqEnB4ArL:Q_zrJTFc3?O+|lf-yRRO;sm?Hcj*:j)<cM%;@HF$Pm^_:F?lQ_TEK+Fgl_gf5I;?=kI-5NQLI3Ipol|?Cx
  P,60Of8SvI2-C8NqCV*6tv*.2+Wn%JzYR!iqkrSOd*0z,g_U?I3qID;_=XNER<xSR~_HN8TsS5s:=lN~^5kWXVo6_jt0w0~_+
  6|ePlUU+|9M+^see>WqK%X~N=eM=O1B1_10W|cNN<2o;2D5w,i<!fnwYdF.:XJtBa^2Un:iyg8IY<=W&NnL$_pH&wuK<).Bew
  X5=R|)NiaXz9AnbFp,lk!GfcCYRDAuy%93-S%)pkzzfBn)batddVXp:n.lDC:LFxR6.C|306$m5^3z-w):!E<JDF.E2ZKYq(F
  1?8b~Pg7OVjDDTe^>V|~8VZ18S-Fbu1kRYlKP1ijvf:FDt$7&q(F8cW8CSQ_YQMLz,4xd6&DIvU_gwC&lU<>Tg9n)--8Z8HP;
  7oYVC&&XA.I_K^V^R+5t!2Ubna9Og&-a,t*.RIT=->7SNKq%y<0R7_+YP<yMlN,VN;4tH;KT.iW?UBurk_W=k9L&fH|elel84
  poU2LWixSY_qA253or65=oO3~s6x_6COdCNe?;m4ji~BoqBCx(QE&Nu*9^PNo$)+Xefl+f$NCu=1Ndce2?~m$h;F^ZupEvFC;
  ovpfcEjWvab?^06W_81@x0%pTq%MXS%D6w1w^6F4_Sf=WS?%vP7+36SZV0J3INjx.m(|Y>;:FRZo1H+QV!whJTolJq02?mxBW
  3NR?^346*I)Zb5Vq.^N;5sKOcEvu%iJ_E|UBT.WmOvCs_bg3M@+uh<vv+JtZHgM9e_?Bc~=LmU>|d9N_i&Xd;M:$3GhAo!o73
  .v&<xi$6d%E?_%l3bceO.VTg-&IVP0LUysp;WU$XJ;wOYoCjiktoEI?AiP?;*JmP+sIzYi%lRb%VeF!&C+MjM~.*QkjM(d8|Y
  ?M?d?EtYijng5ra%i8+%|Ug?!FG$Y;^(Ct<>*uR.|scXuDVTHMy|cW=6kAPjYm(A<0_Bg!O?ZuRhArqy|T8@3278(YA*UMb^u
  3BzP|B8Od7sT_+I$Z?xtA=aFgRO:1d.Yh@N=X6Zg+p7%<2%HsWpASvN$1JWoy>=p*PE:QlwUi)s&O~?j,Xb?4Bn:!X?ibBJR?
  cuVF,utG:EP+d(44-yED?aAlR$,V2G^oF2D)QNE&x0Xqj*o6TA!>=8hbokI&r~voXTFepM1p-yF(sv5!hR@*seXUcjgQZaxpg
  m?Q@--5zX,yw5onhk?%4dKSxvyddUg:X=<BrKUzVTH9ZLjj_S|nhi(q4oYuh|&5dQlsGx~:oDEB0*7wOS%7Tcf*FK0xSH&M41
  n0Ts~_aY!RzHR$d73V!-S,zIPKfoMZgP!Avq@ZOTzF=5*sl(&BY~!HnEVZ8bhsQAIN!7wP$MW?H7Mf_H)XUy;.s%d%xUO0I_h
  7-D!xC~)GkpxL<%nhhLvBwG(4-M!%^7CPsh6A6GRNY6nQ!yO)XzJ77>CtXZl0,gcd1MFrPvrLl6Z6VM3Irdp+DgkqDUl7hv=d
  OIJB~sBb-&ZR5;AydCXuYW=Sk9,BJ88h9kS|S1o)2jHWkmC63Q_KyCS-0|-J!0vQo2?j38b|~h!.^NMUZ5<xZ(?;k(CI~&d1l
  9%6-T;n(|QR*LiOTVWzFFXfshpmYkh477u%XQU.6^6<~Q1FrG__TcT3$2k?|ub~UdX:B9zzX<7C&sQ><t_xBLYKUP!p?oTNjy
  vlg6VGZ-wtvRH3_SK5yLf<QOnd%rGv~:T(HQa54g~~E7)?TWgyE-?SEcf6iDA(~|u0KMzmJlv_~bk8I|RU:8azd^g<%Q^BV$0
  Tz~g;8pqgwAXg9Ko5fhWJfLKsm<dB%()F?wF@!QpBwpW4|Bg^Si~Tn&c=.ux=,O$~9E;_w_s:@_mg*4X&H4%e?GAp(n|_r0-m
  Z2zpnL7?<r2CDRrJF!Du9tJO%e~(T!<Hak>Ta3_l:=1i*Jk*0831e8mF3(rv7CZUs1h0r2S9~p_3v9vKT1|oLZ33Jzd1SwkB=
  onZXwg@c8y*XowR@?-q+WGSSyZw-&cM=ju%<RhoMK)nVQh@*$B&v$h)G5LiD%sAi!?ISzO?QT4wuIZm%Drx8.sv%u(:d^fL_8
  4dm6S=bu.vArE9FS:u6jhU:^lfT!7YXeOl$X>l9om1oZvpk+PF@$zOPpFnh(,t-.IQVn?9(zDEbt~4,34rhii-3voz$hH%AI*
  7;*Xn8d;F=Y6KEX4!MTVk)edm_5DBan8GGIl=Xpb>8jQr,ZBUV%E^ujBIP$ZhH^gVcl4qx7=Q!Szxfyr-1D6$Ck(7UdIs4^Ub
  Lk,r2LlIf%Sb$QoEm(7(Xd!swiPQ1-Yd7K7t~db9n_LC_nltrX>!.8zPN:.b0fBd7TqK00u;cK@6SAvO1K,)caps_U,VT_E-Q
  2-LF.QjW<dsEm:Germ6ciKalSXR<6=Vij$I2kRkzm0z<tloMg=,BZJ<+M9;aK0UF1=&+L4kcF;!~B~m8y=_DjqLz!uu?MZkQ~
  a1z^kFQUkEEehARP=EEk;=-mV=U$z?SIM@P?>AKi>?:^EypoBkCzTxpRUC(6+7AZF7Snd*pfb7f!@*Z%PI%XsMXmd-Dd:|Umj
  pQfbcfL~,@=42E1=uk5FxU^hCT0KFB9zae4,up2ihG;MUHidKjRa4f)8~QO0jX^XXJp%^>Ey2H3ix0jmv<c7sJqZ!iGv4R$Z7
  .VV<VKhcjbCY)wk+o)+5V4*|SQ,2eHa:UBsoaIdJQj+qz%8;Gvo40i2AODvb4N?j)ah7HM;xDbZ45?4~us;sA<gGmIaFGoy90
  +_.-POH$oZu9qLX!tBAa&m~0ndEykV(Getp4KPR<|+HLMi;kMW2tQX%2t@&!>3*sPql(@6O~ZfC&Z&4:mUlQ+ir4O!$C!61CJ
  oDl~)t9nV>M1~F|Y0p>KR5t+69u,wuVB8ry4>abvWn-ZS&u*wP.5xfDCDPcTSq6rN@N)nA9z7GU=);*gJi5ae&~5=eQUs;EYJ
  iED?L.c@nrnx8TLRkA_i,=n^rz.!e|,P8b!%VQMrIL|X^-51)LjWrjK(5Ye-<L=~=+5>M_g)5:3u>yriIM%GRI+Y13:R@xeEv
  .Kul4ATZpziUP<yOUk>1b3ks~$J&x,S6RlmSPgW|CnhOCx@^DsL4%qW@Gj;u>0$mR:z*@fi(b07>(3+,ly,JNS6eGZ6I0<LFl
  $3C6nIRGmj*wi%&h.>3,D@1t9eKTwMIo.PX+!;u87NHRI6,WCRe@GWZR|a=*PpbvC>>Y|.wNWoK@1zV|_R_cqX,@dfKwwTcrx
  TIK$2gPOz=+<ETe89b?,T|jXSyUEN:Ou>UzRw-A&nP;l=;6uB.Ndoesv^=O9zRy3yfjWQ.A$P&%rxJ@OIMvwMdiH!SjL*Gxrf
  FY-R^nUa<H<hru>Mv0NWz_X*ftNKCRbpdjyj)XLI;tz29c;=@o_YJQFXOG>jzud$B1iPw7Wx-v!F0n$E;29,s$5KhLLETFzJY
  e_jq!lOvHFt=tTwu?sPeOV2@gRDtW%rD,gnd0,!cSO==pBfjkjnu|Q<;~lK8!hOMI^7~HnkX!6J;dNdQlD!5IQno,*eT;4*Ls
  oBDH-H*KLMfh$+d()m%b!XseA_TGK4$S&ZM.67qu5?m.lUO;Bf!uf3CF=QP2SUj2!q%^nPmE3Ztp(QfkH)v9V,g,sDreoUo;(
  RjV1(P*mWLlG@c<M+j&;UE@;:)5T.S-&=yGxppOy*pj1q.0v>cvo;EXF0$cc<Xmr7)nlCSAMY@:)yRc!;mv,2=1a(8pNR:CK5
  KJ-tCrh|^3u-uE%DwzoR?c4,Q@+=I)oT:r_(3tLGK?h,WD84~m,EMgP7gJSH(KCF<Ph^Yp^)T@*bj<wbfLX|y~3sH1|9fy<ub
  ;TuvgJc1M=6g-1ervGRoRjC&w=kYATfFHW<xD8~Y^6Zf.Imim7(^qJXu&ZWR~d3em;??XglsmV)l^d;wJ;OzT$d@19(U~Dqe*
  nLW,6G+C|ML=m)QfWQaId%A:v~EzOu$CRl$J2Y=ms?r?AlRCzD(~tqqt7T?Mq~4eDO7&;4lPJ_;Vr2*P54MJ,.,EPiRRI=e(-
  3Nw.h%Ohr+ocXs%+*v,Nf6jM-Pcg=,|h%Fp+0ad.@dUAg&QwW$T_b~F5e.&-x<*R)KpSdNFvqJM,A<b_!kfC+l|V*=e|YNxF%
  k7pOrr3*M:fwQyWhlTZ<C7VEdlECZQ3~eK:VF|&GWiq?GCP?6Bn$uesl)UnBZ_:DQ=noY+4X:o0XJ3qMt>SKb;59U8!(?AU=n
  _P7Uw+_G%0TT:!YJwB,--_jPnQ!E(6v(<o4Rl1=8dk+*McK;toJQ)i2VXD$p:JdU<vFCQQjiXb|8@UMc2,9bb0*7OOyumG12H
  pSX~W5.1j3b7GWZ8&023L.J!YQWV&YFy?CK!e.V^WWaHTf=D=rw-1yLYw7s;6w=g1U6FyJ(R(L!a_YMHAj<<BAas^>Vu5vNr_
  W9>3o>wbj(Av=G+;x)0twSeprhRqtlhh.MmGM@aZ&7Ql_mcfa:K,Kg@^$72Xv7cThclp,fduCFFOG0~,WA)<=ar@8!RImHbxk
  qlL(1BmGYP0J&F5AeU!3lO5!BP0ZOCYiE9Om8c?eCWjAJ%9KR<<Q1-cR7-DvRfckfvt8GNNn~9*h_5<.eb7%nd?3?*g+~pWjx
  >*p;A3v3xlAE$Z?E*H+dd9dwo+VwS;k4,~BAGdeWwe%l|<EGmr7m6^AL;o)49mEz)qRo1)RvWN,-sbcqaILW=+jA$dZlCN^@j
  QIu3rkk<oZ&Zkt&C4qTT0r%I~Fqgjlkz:SN,xTA=e1_R>>DJ,dnCF)f<$-Jt>H>AhDb>+d=TpTeOSO-$)|rtMd$GW-fUi%LxV
  6?%&a@jM~|svLU(rkpEI2.a~**UDO(om-JNSL$r:AhxzV:u~UT^!Ok2(b~&(bro@ggh3MM)gIv*jMd%6MxCqBJm;I:2E|e524
  NPPCUN6AWo*E.9JH*2PY>bSpT8q?0~lZzXD,U=8~&(F7BMc<$|b6(hy:y8hI3lUtoj^U9K~!0Y%_9e=6s~(Pz|(VfKPwHh):6
  lBT7L1G+^RuAxcrKks;U%q5dey$_tr1Q%g;L19mhppe~(ngcW~R~zW%N&>eG|kE(yECo|-poVv2.Bt&&^R-w-;tud^zH.::f>
  vO;!^?^wNB8.0Sbv+;@p)CvWVm!+Kil?+t!WIl!LoguBA?d<4Io@;Og*>*9X)~NmeOo0s)7F%sWA)fcJ,Z=U6pj1r5yL2T&^2
  q4rU*DDUE%Z6Co276>13,k|aq)5|Jh!UPqE=APSJP=JcACFg;^jO.Fd*0YntIl_C,D^O4g:U?G>Zbm3<FScTkW~B<Ld0>M42J
  mWmGdnY~q!lr*nxApBwl=0W:!XsMm)*;~1&~P1a4HCKEG;>g6fc4P:w7nxb*mhpm(3P<34Ai+7@f*u!&I>,ASZW1b)8D^6ZoN
  Nzoio3lmdEuan6.(PdRvkVX~BLw4*CuXoU-j9F-%=tOd&kFvF7DfT77U0TKEBCRPdvn!^_cN1r*5k=x^R^S0~&G(O&LBN~Ifa
  qzfajOU?!uU|XLeXwkBQpw(&)mp4hC6xqjEq*gk!1@824jc&YBX73^:TLmFCT?k4r%vaVOzWgg8UKzqm9d)*1hI97mQ&t!a-(
  8k9Ojm,bht-S(pHuPji5Q=*e-0Fvj.4Wh0NDgyFjy@0Bo4+-07K0.!~v>zm=*d?a@uyXNMWNKl97BwHw,COqCe_@Ry=_dQ|Kc
  +2Q@.ErLA%$CuADsz^^NO|?2T$jFSV4Idw7q|bC%6N9r!GUJm2S7q?Jk7=eRD!6|la>ZUkc1)(JV%2d7zQl<v*tUZqQY8XWg-
  ?3z2YMG%1*PLyDqM>@hRyb!rw<ubeWrvnIz3AjyX9LpdJ9yLnScuA49pO|p,vjb4ZhgW.X)%TXB@Z1Y+l.Lr^JqvPS<!wLO1I
  dy5j:^Xd+U_%i?%Mh0$AwH0P-H9W$<tFpQ$8UvimDQJ(YUaDqL?7%Hj-&Y)!qT-21BHQq7O^nuF:EogRuJ)!ASX$m4R+N!Qp4
  FVAuan.D*M+Rz.D8&|>1Z~8!Duc6^Njo:ZCzoVWiM6shx:Fd7_D$rVM~*bN-r6f7AZ(T8E=IG8nmvKMsvsdaJ2t&zMOF%|GS2
  $nj84(1TgK3:c-ARBKAiUy8&1rbUe03RQF8(+Qx1*0He3m|Q*Eqd0Jsh5+qqT~aKg,@J6o~e~V9BprNhvV<7b.hU_.LeZN%;Z
  i9i@|X74&.44BN*Dsq3AJ$)hrPSH1X=%ty4uztQHPq*~ZrFzwo,:,=!BS4Cyk<OUesbH2Z(,y1V:*&X9v(7Zx&hB;|b$by.vB
  Xt:Z2v7WU+k5;r8CbSgB7Ov%k_FW4dMHKlbV.qCVwo%VgdOZPa56M%C=HIGs!M;AV6@=,~*~MrJ&lP0dlz(@0d-S5k-IjbW+>
  (&$i7powzoCtP^SoPE0^%av~fi;b(D7)e:__:&p*,wGF<A@XWCaG?M(Se^&X|=L=6NA@URZc)D&rZvs>F<vbEidp^GZ16Br@3
  I&+o.fa16R^?a!tVIV-.xTG^uT&5Py;<G&Mj,Z&X)ftHvkCwbwEuDnj(%b=kOq|?>q8Q8*FJ(v9|*gjtjyd8F-$e<vi&8<8x1
  5a3ZGuA)>Fi!)!LOIQ&t*DanVS+%1_zpAuN?!xS6Ym29|~hHT4>*-,5**:rT7@$S*p_F>R<MtPddvCu(mGxKrE3p7Q>lQFemA
  L<GY!WW?Dr5zMR2ANI>2Zz-sng;qa2Gml$Cl<_jul32|4OZB(vn,|=3l:4aRz73)V0e<1r_Dde1-aB^6?I,8pJBUpdag>d3Wq
  D^>%N67q^mlG+6twfkW+hFxq&(RYHTG?b2h|jr0sYc4&3:PEcZF2KY9GjMZnhRa2QFk65Kg0*&mUjgW+b(xJRioUeK9~G6&&@
  XBC8uZM~|Rj-;TZ-3788trvHmrLh%CE|p-3JT1AKhnAu=nk|(kWx=dxA2q_J_FVy!Ft$=AR9:VEMN.qkk:ajNfz!ucM.Be=cF
  |o~z:qdRH9ZY2D>5(LmC=>,6v^URQ|R@wLl+j@se~4dqJxMDssU(AlDFE:jAKhe?t?v0-etR5wlGKIAo4nwumn=xfnc6N9MWD
  X=AGgYI,GnvN+kw83X41S&$tzb)UJ^2HJwP-l*@quig;su.ZvC(3eAyNj5U?IyWZnHkWl!%kOMc|x)IH;,d4@CCY:NmE-RkN_
  4b=)v$!X(mr_.;n(|&h!S.XVlU1Kmb,HayeIgw-5DiG%HoMRBE-phGG;Dk(^y%?:pePhe4hK_dTfTGoOTN>-m-yId?KT|37%S
  ozyU_KTsYpf!USESjy@OgwQ*PYo*pODq$$uK8jNUd05P|2rS!Ivzq-InE65VqX0z77XP.m2w%38.xAP)e.|(pNf)X4-kR1u|F
  G<dYKnlhvb?5v@!DfKqBLZw8dXvz-bq+LFcK9rJyvJcPjp!ZE;K$m~>R$7&X>RyK%TLkGg,G2(,ya4qU)8E4fyakckjN5QdTq
  SNz>dGUf*-2qB|ZTVKl7N(qc?dJFJ<q5Z-_-M16rx%(s2,7:X7hIxEnj$BjO(0O3snqkIo,n^UP^Q.n6q;N^O@A01Y!8S4:dO
  b@D.w<<X%~CZi--mlC+2vo$<u1Y)n.<O1MqwD~zhzeaa6!sXl?sZ)g_0uugIPtTKEcTbT2>zA@1UU,?EB2cxjB-v*md$1PQ,Q
  @KrXGhhQ~)~y+xpEz2u*eWff<Q@mwU)ScrIhJwR4.nTNzBO2r+IK6ja|LidDTekkcU|>TQn&8&7)R,qPh?Z*dw^)lA|g>MF8(
  92IJ5|0Kz>A)C|KbFJk42ERD1lE8tF0c0?!>rC7v*d,,lYV8?|9RSn._?bAl=Z!)U*ppICq_W52;C-c=dYa--9^2a$QDOG0Bx
  ls$=TX75T~<7~neTcd!wqXOY|mXGV=8Q;|~f&MGZP2i@-CJ~yQxme;g9HXCjw:PT5~7rgx^u>|HbK_nuUXB?FSXRgyTq)d:$B
  H6Z:^4mjKCpjsHYl_I|4sNoLy>X60<SC4G2^9G8(<78kPDm+mE;~kETHo9M6hDojNY.T_gBToU5qWqsCMciT|SoJ>S%n^yhAZ
  2d>|P2VQ+s^-f=j45Va!dwB*T5z(@H0w5>~WrCKTKB>8J1*+~xGGzuDIpz*?gET<UrMmHNw%ijwJ5p6zLY%K1HI,TT%3q76+&
  cf1EvUDvYQ,(+:H|k5Bk-xJkTv=t77dw5OT=j|(PYON13KayM&kdmkOyy(0G9XW>:rK^44,c.;JVGOJdgMIgpE3A:GC&;TJR6
  O~fnqx30EYw!?Qnr;e,+piqv^f:mU@?CT3EuZ,X:j%IgGMM7Jdk1hS,UvgEs5_EH|ia4T=1Hjr!_O<ot?<@B2K_@J~FO.DPN?
  s:2w=Rm>gF$=w84zGdJ_)^e3KDsl9wPudKCY_R~4+kA~kvx+T~.RVwvr.y;q:J7,Vr7N4o@~mr(31r|G(@~Yj>$??lBiK*&4~
  :^etw-K,U9f4KVwrZybS$c|STwSLdSfNk!+<Y(Oe:4!Gnsakqo23^|5VEJ$z9e;)!fky-ZBoe7!=7sJ.=:zD@nCU;L!)5EH_?
  =<p7_=lljYt_z53N$qJdA0Hk(+.4O&6;<H@FP2Fu%=*+RE@a=X%IRko|4+>6L^Us-:Pq6_8*pr8iF4~e&+6uJ3W1+pPKKh~y^
  reLw7!EWVEK4K!C_Q<peI49USlNtuU-GbH@5=E^d8ol2oZF6sJBfwE_AorL,e?JxrD^1=mzni;aMi!Gy-,p2)19&?M,9hfK>,
  )i>k8=Yjtv$lWN^$M@2~0~fHw=0-adP>gFSDm@qm,N;y>bOhcT-I%=1vd?89_%27WQ)Eg6>@QA&1e^O;t.SaH<&G93mA4,M^q
  wlw6^J|_))iLhME_z1%b?l0=.?8uQWzC:g(hf8^$X~SPD$*sNmGJA)$>^-+iHUnlKaRvidyH<aE|jK*9LQeGCWy2hUD!:v9GO
  kmil-*qMLWcUr:PTNcnJ1IJL3Y:qCgpU^dwW%qtTBA($PTL!YEI07I&^sfwgt-Noo=,?2?$>5S-^hV_xC|KYJu(fSP1W<J*Bb
  ?om5C1IgH|K~+IhdN|cBgd@l~*3Qj=G!hgM.2=;bXUdqZY&Lo@%h.%QIkmgInA>0)_j^Xtrf_:;N4zliYM=C0$hkBt0eNNpt7
  71=,4j2.Sex)4<,>LMtMJB$5!l_luz+bFAR_68Y(C~,a&LuwVIzFL31w_m1ee4!i=Yq3|;DIl>Utf57(o!t$E,2&Y8^e8:77V
  %KXr)l*:w?T=N~A)5-Y&t~NWTD9ZB|pC%!D*YRXu*T<z(U$LRL+QBDMt2XhjZ55w6vjUW.LO0!3B^e$Vxu3I~.1r^Z@V-w9U)
  +H^Fb^&mF1i6AfPjoYc|RVHJJj&@MipYRZD7>yU^Kk62L<^~BZK>:J5cM1uA.EX<r!d(@tU0@:f.;o&TgmNAU<bBz6yErz*V|
  UshHEGdo5,x=++oxdh~L7BoVNF<pbuYYICbQ&?Gix%wG>YU(u5tZ4P|:yA$wNBayNqA^lR<C>6RQh<)UUFR-=?Otxzq_@ESi1
  jnzMr2?Hoj7!YR,8?3lhAbK=_cvFa.o!SqEOe9)txg^cO92*NYx,^8:5Ea6+P~05<=m,V_vQv;=ukH>phi-mx?CIVtxYmcRa%
  wo8vi4uEUc($^hxhfAD:>n6;_uHRhx=fHHaLczird9i<~%We~LWIit,,JFuv%?d:Rq(_(X1y=CI0X0|h~yjK<X&(y?=qCtQf.
  Aw$AyF:7@G:+:)wt.aQow)q>9&+uWPaKg:f>jJR~uVF8@5~3p6,wyN@K3YSOq?14a.5G<gU<1F<*%0sPhUo);!=,EvMYk(DDN
  >iXD(3d;*r<RcZ78?Ci-%KIfs!UHz1@sCV_~|i>z+$~7XlP!%6$owe8cR$I,%=Y;92LfXX)$un3Rdco!S&D&dM=ICmhtCGbhe
  vR7DPI&jnphVJx7(%p73<sYhdft)$MyP0m%?KJWd>GvO*v)?Vb-vcIJDj~=:A3dpDVzoIhP%$5$8KrxIlc_<TG^eNji:;hg0=
  <9P8C97~vCeOjMa3VK9p4>I|wrWY1!csL:~Z$clgUN|R9P_*NPfEvyjN0VooEuV*BmI(=NUjWFbUxU;=Pl>3;)4LH3A42.ywj
  Mxs%F&0^p*ZB*YT@0bLPjdCTx2I>NUtPEH%p:i29!he3WcchL-G6,M2M)Labqm<Y<?5qHIk?1soRI,qCaT2Y>wf4Q9!pX-kst
  6B3(;yn%(-8<MH0=!!f*j6++ER?-fazIZ9;:j,XL:6V$8M_hg,2!BGD^d@QiJi!3iizG5NFNE_pqhu0@$DgBM+DV@LABO$3Nf
  =7|GsE_1KM!JT(KI+U5oL=p:V|YqqaD-llO<&eH9qgVs:Kobs.J~3Bf|ED3.B*-l=N@vI&nvnTWCB&PSSD|kIl@vCfCd.;bXB
  m3!U5&P-6~IN2h-dfRrcKNV0WTiTxkexJr;|?cooUT%Q)W&;-P5WFE>EpkZ!>(n3Uy?M|_m>wlRyBKqq~ATQ)U%RqV?Wq-=i6
  y?qpqLr5B2m,HPX:e2rA>e+^.L1hulmW9$:PlC8tc(<Z4Rb$Up+dHG;C;e=k=sYm8YQHdS+O>A$RAX()*ZOZpI+WAoO*gG>!U
  $%wXh-rhpiK!Shu?42:7o_Bhv5%~ObTxdVMFPWJUUd>7(Bxeo4bOi7euuvVZAwx.sdV453-sJIbjc;U9c8%v9d36<S!d?Fmdu
  3gkH)vX0O>+G7pR,&xy7b-ZL6D&y)2N!H9mrj,EFg|PQGqX)L&SwHqbc,(1&KF?B$:RmbRg?XQAY6Vjtx5jB,^4CK.3EwLw9i
  bZgGp9l5<$bMn+3;^?:WcK!w*Bn_5$o5U.L3cN65v1iR<^J@:s:80J8D?7g0hvS^M?*CcJw-8R9N|=WSu;-$hcwz9.R&||zL&
  uHXin834P5-;vfLmFThQH;nL:1RwpF6jDhP^$Ah%A2T2L^Te.vTX2k!H?)AcMEu=R7L=dWf0ZrMgG6TMjOZ&TPFY?aV(jH,Xv
  ZuUbjq)nT4BzXWgZ&1zf&N0uKQTB.:.ImXS-q0<$SF~9ygd,L+ROrKVyK*b?v7%*EvIPgPtDAl-)1;$^NYI+&g3nNr:=zG*5W
  1*Kx^3qQv4:htFol>)b0+R:h8WbJuajAlxrTW..306)CC~Q@wQ7JXkp^<bSx&L4UM4V8&A;iunErgXHJ0f6DCBcj%+JFh^>2C
  U7-YMyTUEUQZ(AWx+yj=IN36FInuiJ^!6ScK?TH@xq3!6bGsfD@*4vau)nLZRpe>x<*P86*nKWML6W8AI(7c%S&ur)5D.Hvm=
  YX:1gWCIJ,+8n0dldsnmGh4p-Tv,gKUou2,Dj^tglxar1b1krmXerlbTV*jd|9vwA@U$m~K8*nBE5nvM=Z.YOay6R,^*g_SD^
  KjKrQP:I0+TYr@zZ|uJMI9~xg(d2a(x$GYgW&yp:o?hyfEQ)8;|fvw*Y)@>Wl-=GL>7cA2u~S,Ys^:*hYQx7YyXFeK2>mz8jk
  z8(?iO^K(i?0PHt0lz!+UA~$XO1*u(S&<,rhjJ-S8%>STO%w(9a!Z>YLK1:sVpJpwvMTWRh~kUlInI$2^Ch_6BS!k|:((5-Wy
  ;Fej|qI,x>IWrjM&CmBqdAmWTbBrqA^c-J=fVxlu96@0l1lKD1BF&<th*K8nYlyC.=jOr?rQ6w,8:o^q.rJ!24C3yB9pqqv>O
  ~FEn$@bin0a->V^VdYR!eHP!l@BzH<33-*P?767jGP_UHkuC,~ePUEvz+x?62KY;rA-*bh|+Z,9&Fj;xx-|gK=2Ao?lqVwPWO
  ;WrjA)mew-V%^-uzuhwj.MM-0nGilLHlH1E6_PfE6N&o(pT(?UGz,.ADF?Bx,5e-ky@~R?S&48+.@F>lmL3@|YiGFk*_o:0-N
  3=.@GZ1GL7V4YUt2b6tX?!6crQ5tm5jU1murz8_*.HTbjh)%jd+v^phe5ZDT>L36o6T!$qDJZE~3p-9@N8KMy7^!aPyE!bx:g
  D,2CA&AheeQdqQcNZsKsvG7cjNrnm*3PV$S-fjETHDQ(FZIixAoQ7=u0Qc0=5Wh2HnO3d;Xk<j9knwNy2NY*8eEr-R.,9&05@
  fvCJAUnS>smu+dW_SIKh=HSdT3@|C:5O5&n@)s0rTyI-u:4HREkTmOQ,qye|,7Sfk>l^dIW5:@~?-ue%q-upc:M,&I)uqTkDe
  DPhr.YG&LWD.W2oAnPCwU:6*TM+N7FAZdx.B&V(.AK()MFhk5txz-;qjnQ3oOZ-?_@!vioe<SILAV;xJK_acyQsg6TFob>vr~
  b(o3EyA%Ch6f@&EtyUYDK9.6Dk2s4i.qc;J.0iFfO_4t+@M?Wo<t3c&-~|ZTnXeWOGUxX2s5AMsS!EP?xHc%Bf)lQE|a~o)dZ
  PFufgJid_?L>BzGf|?5$w@KQFR:6>;~^K>qIqq>T9LVMgWc!x~@&_:Qdfg3zMT%V?Wvm_riz=|HD_CO8gD8v,ScMgFkK(tB(8
  FHV3uDw$c7&fnPEpd<NSlh5sl;7R3o.w-gVjx,+I.ppgZQIv%eGA*2UY7O2p417p,k|I0gEjBPfgf_;q;R>v8AQ6pC;IOy_by
  l-0_S$<BFmmkK(Z^-vfb)scm!5injPWFfca7_PZ2H(bZcLW_IdOXXuw8KPPWK^54%sBLZTSW:p8PiAOc6A&DuZdK*N6El3F8u
  zoteb@7eQ86-iE?hPl.yIxto<jagC~5|gs+I;E^$9JKYs|o!B9VIln_2N$SBbTqc!$3(us)8=0%Gb$M9MGY*31QP!$NE1U32D
  tfep!!;Kb?QmfJ2S3>xeSm_u1~L!W+lM6!LF8UD-!-wk,O5h^>5HemAvb_c<)GeTO!w2~E.Mng)$jAiGC-iJ>!ipw@nc~?NyF
  )w*;u-7W%qrSO_Xz7us7e>*bd:afu0kAt-FZES^T(PTyFqW:rqdpzs~5rTM@OfF?1n&2FsI>@ux)SyINB:*fD0LB<*ESSt?2,
  ^?-glgOr&bY+_V!0N+)bN_<-@)ds4*h~W;NTcSKz!$Lt:~NcFHstBMv?dJwiN,-K1-K>k=$YKD@?u3xw7y32WOI_kLap!3t7x
  ).$9bfAoNG3B_O5DgB9q7j@PiQSA.*P6I@hu:P!%bzlA:n^g?bW!li-95eiO(g0~*^vX+$Z0VmT!5|.29iaGRue9qCa|!u)6=
  uMCLi_US.A)9|v+b^a!Cj*USJyCn,Z!@3Z*)ryv,iFnb3P8TE6fN6sgICz7;vHe9e3p^mY|&Zmx~PntoaI@R1.Ol0s~Nrz@sh
  <s>1WLKR&qhT~$T3SlX7QIc?kU.dYiUn6&pMi~vE(?7hPZ5n<4g0B+|NVCQeP6hjJHTSK$Q0Nr9e;+-2mY|vvhuF1W_LDkmxa
  KF,Bo>FFS_EZ-z$FNWT$0RLxX8x-dEi@bj$5Y8*xEHY~9Ww$y7Z41aLfe1&Psrn=;YM1oDrr^*9ZW2IcX4l>.d@$Ecfu1R~?U
  :AY=V8i-U_WP7EE%5Cx+UG3xg7VlNLx6I32XDgXV3=o<%9f1_b6htPVB)zRt8:bq?+BkpZx;A)?&Ko_aM^Dhq3A:a6PC^3iBU
  Z?gahpCpJJ.O0hBjWxwlS_~SNeh*:%;d:9q?H+iytBLzFqr3<@hy@fiB=,rDbNNg:RPq&S$Q@$nw_s?|A~X8!?W$9uM%SqY1E
  |;Zv!uvr7l4C>A1_xMGBNSUs,Lzjx31yhQ6TQc6Xi9nELpOX5CP28L;N3UFA*Q(77hirmBOYaS3|H$_lE?)izH0RuHV2RR,~U
  k$fBt:+A&Y2&N;QONvBvaIKYBqYn6C62:Zhray$!m:08S.XZ=ng8;W^$9?tQH%owqy_1h=5rZb__O7vS*Km@R3SbYa*>h?2k8
  1(odh,5$IkAKGp7MDv4u;a2@5Q$;h;OrC=AG)4LHN:CV;I;-.qOry:k4i|89|JN&:ro+y1qCryl;?+!1E:iw35v~jgCUx%!PQ
  Feg^$4kToglgB;-(gLrLsqdTCyqA_k8)05pmUsGAsaGQrWZP@2iAn<?>?;&Jy172P2>T@cG%kD*4=2mxR@,|:9NU_>sFgx.r_
  FoR>?S%>&MS4y>Y?NQ$p^N,~=fSP.^!<JfiI|0PV74lnk2C%(RI^nKcpGcDA(3z?jXCF~X41!C?KSN!Ezv4*GZ9TTTq3;&$xo
  @p5qT4(V9K9j%BHk|7;iiiKD+y3IR&qOfk^6I>BgrCsbyZkWQY0:0I|J;JReD0A4*F_B~BXK?!Ek<Q^Tw4V|e%zSf_m<AbJ;8
  8v0iu2dLe4jh|A+A7VzBG6YT84luI+GQITlm&2if,h-AT!Z*~b)gzRy!m@1?k!Opn=1hw&DzF?W%SWOoY+.j$,Zg=doLyc3CU
  _U0eKxb4F)-.hU&aN&4_W+)2aMwMj!wRmxAtiMch^7i$R=10=y@KFLqYg7X^lgeYqE7:ra=ll4-3&pU:abG+1te$Ui0bfpDeM
  i5qagQoOgL5BN6op5K(Of>uZzS7DXg,K*KPHCVY~lv*-<r&w~Y4HCtjU_.b5C&d_lwhz&|EjYFqTD2R!w.~)uT&Ac2BuYc2b5
  TiiGy5g-Vg:<a!t7*A6nWHHNR179X2e-~~noRV+EN(2<%=~VZW6G3HexjXcPwJlncJ6m_?Ac_cMI_1Cad-uLitf<D43$v!~VR
  t|)_7ht_U(IyB$$o)nI8e^vljo4fA*:Y_cPOY.@,Wzvoki^c(lL-mi^jA8t(ho!G&NgVPTZBo=aXvxM-*LA^&bikqw3a7VbCD
  r3n27uVk97W^g>)XwO;Ux,$7|B%X>1$jc|&Y8|Ws,Xp1=w7H$mn8O&bD)B&INPDGt+igJFX)y_!DO?C5)l8XYD(.*%dw%KNBp
  VUdTXc*a:@-)t_.-=;uF9?%)a)59-EAaBGTU1T*m2y))=NrvpSc8Dz@!SqAC);sX)|Jj-RfS&LB=jz&9j|79=.OB:&<(4rwau
  sG2^%4&5!yC.m%1r)w*1kGxS=?-R%m@%E4,JBa3Sy.+bCPjb=HOtzSt_65s03Vf$02F;h9*<v-;>p?L*0*AXrN6jzk!bfu.O3
  Xn&sysk!nLHXS+u<@L_^&Y4.pL%V3,rGyz&K@gtj<:9iNeRE47eMVx)Tss%ww3h;^MI2n@7^Y_s<z;B58.NS%|--VT09B&r6h
  0cz7WcKA_gJpX~T<2A?nhjXxqDn?ymc+%Y95c>TBAiKVqgf5@oN,lMWwcSYcw+cq6Qru%Z|_BOlQ%PWUGdx_jsehy,Us<l5i7
  wn%wFg4|Easib!OVq?hF2C$Z(=iXD49-G(O|!TxjK1?n?VX!)Y8AeW9NQOU8^9GFgzagwde!v|)zB^ef(PuZ:-xMRAiY$!kYB
  ~nC>,GOyC~ryd$obk>xC-LaYDYNcXS_*MUW!$r=bRJIded6lK8xQel;:DHNkTtE?aTfNvcN:Ax3g=xB+zrsji&%.j6WotF%F2
  CmE*&!cUSmg_Gh4_@_t7$mP@!:Zg;mXB~%,kPhg:C=EazyCR;>_$it<l.!Q.ZDbI^:*(XRFhF(+yt_~Di=B)wBz%q@T*5*~?@
  r,pDs+l47.v:lH*K4bHdq0F:,,3^r@1S7TAyT_61TzgM0Yd62.A,Y?42pFE8ltPnjPrOIS0O9o%8m+hcWw$AFB7dhe|+q(J5V
  hlBo6!fIuteIl&HasR2rrI@%Hp,*mEo73-JOgAE206RBYfMaGtcQ^L:Bvt0zE%rIUG6&3UK6*cC45h,SK:I_.8|d|3&89OZkQ
  Rq7XzNW;rv=tZo@ax:yKK+9xeID4w,+_gbv,DAde%aj7C3B-m_Uv=AusW5G)&~<KrtEnN76,Yp<(F(?*0UigqUT4QW^D8cghK
  dD~m:Vaii@@ixPPO|1Zd;Y~(!LgV5By)&<_4P!6eC3^96-|_R*:K^u?J^eC.;a7_;cKZV%CWUzTW?ZjeY2T)^XRHgOz&TpgYG
  s5Ca>>BHmqoF<qfjzZB*?1dU6q@Z4mJQ64;4>+zD+LipZJJS8ux=tA9<TzFN*9!0(>askh1BejDh7(!nGuHG9XUxP0!AkC@ul
  l*u^yMk@CbbenF@J7HuO&.@Kz%zN%lNzLNuDPijt<MeoFFWU~Jqj.M=y:HOW7Mbg(EIFbM(sw;I&)Pu253;RngHHRv7BN&v*l
  F|+IT1wW9te7;HHFZ$m~R-Um(JDI>G%VgaZ,Z$E2NjFsC,m=D7>9BZ*3F;X3i9$CBq$IFc=e:S3WpNJNwuS?05D(a-_7r(:$P
  k,zR<wo:o?A.Z+4iglKPLVIcjI3&L>s+yM*e+HHtR1*G:NflPnRE~:+>P&%Ih!3A&8U=q>=;aZE7^>Jj61@VGt6)7Or;?xPN0
  LbxTF^j|fG;gkuxSdHsc=x2Kb&(cc4!N4&frUw2Ua_6c*LoGi?qt7G$&+A(zmgSacp0rvp0??t!uFIbQX.tdW9kWe+A4OOLPz
  kDnbmsF$mr+tavMMx=mN6D!l^)bjO-nL$lnigig~j6X*F&+I!nsH|E5*L70@Z_,L!X>8Db_^j(AdUa-szsbh36rt<c4QMGr6D
  9%b2?:8B@ehoTVqg0829_sgBH)O4Y9h9dSvXzH?*f4PrvD4Er+Yj^lin:hfIoHhJp7HSi:.X+dO0n7A|EP|oKoJcU.f%0)GHK
  F*8UC@dsIm8mrTppJ(6|vE3&;.2NiQX7)IPt9bz$_l@Qhtj>-Gk~xIia>N>Zkb!bgy>;).%hv.rB21on1zA-<+jc5J4J?Vm,J
  w>oJt%C2;(89Hsr?SLCJ;hDVnbb<hzZ6hN+X@&olwzWUbo=q^yDm2a<9-l1>nNw>:acGf*Fv5_2frQ_o1zyYk5UPH5UQCoEwX
  n+2S.ZavnYD.G3?CwK:~3Ud-8=RZQvjy4wtY7u.5L;H5ka;:c&n+%t^y:XOTFg3wfQ84ZvTtV$bHAiUYjc;~)x,!5T<%v(Kwb
  ?byuDO7;X>C?J=ahqWA&1mRuIeldIjwMpow05XYW.(hvYO!ENe~KaV*74E5M0G|~VEJAr?<@A~G^8<fNPtoQduOIOO!s4Q<lO
  x=kSsTT6v+6q1%6_JpuB?39pzpY|VsoDU$mXm;%OAf=+4WDWba0Q18l42HSbvYLU~8RlP@XE~!2MESD84<ItI@nf,LT;NBnmH
  Ic48d:)lNLo1u0:SEbSm2~yC,WK8Twl?:XVHVjf3WGKRp.V3oj9D=@Xg!7QhQ@Z2uabpD8Du,f7tPx|hO1oz)4pIgulD5NA5R
  uHbon!WkT62gQj&_*xRfy~-,>J~ym5|p+N=^YeZLzH)4@c_0tu*PoAIBnWpydxTGAXbMBn!z<ynV7+K_k!Szm6uR%KvY!dVWh
  _ksLkF;X@u9XN@C>qiNiLpOPLmzm^3p)n!SP@F9>esSk^f3dNG+|!Dp5wyqWMSkybzoId@SQ)m7meL*U69OW.R=~G(.IzrF_3
  Lf9o=%_rMeZQLi.BRq7$tu|BuZ.l(nxCVO!hDLW(AKf8-!!W^q3Gvs4DUV<=|Jim*PTt8(mCYeXl$-kipAp*zNH7F2q0Se_D^
  ^x&;6Hb6mUNnU+GRn^QO6qk!o|sPF.K2,r<ezT+UrTI-Z:;I3iZIs<B9=ebb~VpQ!VrczxGqIR:42)u.ash(~Kg@QVBfPmWP6
  *f)86Ofe$7BoAs!@pUv,I68IsVK5W%;f(Vk;Hm4KZI,J-yBY6xnNQx^b5LZTrEqE-T^6z*@0uU1iKiv<&)s13Vq+;VAVQPLZK
  gqLotp7Qnz*pR|=CC1UUwDzcUW$Ze2$9aNQ;<v=tgEm~Du?:EuF4~;zuI3L.X~Gopf5-goJK1%N&av1s7GY%qeL.ae0<hW9&Q
  B?;~s?jwGK@I~|.)xTEILBMFmwZ>s9vqawPMUkU)(l3lsn<f7rAG_xTjw%07GjmXZ1iU7S6I9upBh$WP@MfNIa0:;j;GnT!|?
  Yr,DwO!((XkoMh58bLOsUY@?.OhFrScfBI;:C73YhxtS:_TTkWXzNHCw?&HDS-%t9PsFhb+r%VjG-)0NE=|yB(8&I|FjBY6RP
  s&cHzb$4XVcX(8Kba>Z4=Pr.$T5Z82e)3DHun8~9K+g;OgA0rE;d@b|JD_QQYQ*&=Y%r=R<OLWu$Prb7(10.$wY1bM5,WTJ~1
  (<tm:42uctnk7WgD2FeTC|v,hY3P=G0S=Vh(o?&ysLuUDn3=I)0?W-Ty(nr6Lm4rq5-0hH?Ebl<)IDJvI*URjjmZ?R+3GxM77
  (Ba>IEGx$:9:PYhLC|w~Xl$G_x*j(PO;~HN+,NBs?IT!qH830rCx+>|mE^FYb^%Y322bZ6;3h2VOY*h|t;b1;RGD-ONu2M;>8
  +*kE&l2(P??H$B4p%+;PR|*^7m=2faIc&Uxr=2SfXrO,J9t>k>&HPAEzRrROp!L48_bqorWM2y$7RIS!I$a_@;Mx%ew,a@m&_
  j;R1-^SppyPV;PbP:s$fTz+m^n&6I.!VMc:qk0<ttLelaSpgoI6K!L~I5:5*79A97lPMdwXQW5t.t~^Rh)FNooBmZeN_Na_7R
  vmp8qM~(sRNAKS%g8te7f@K_qSaGa&EII|Td<FdFRz1FR;gY_c3Q=cFRZJ(unr5IZza.H3,_Gc(H_?eef8Ug4x+7@6h*sOlaU
  E7SzT$_r!kd2YVqd1y2>Ev8yDr1f~:bPQaK0?Tmn~W@txdwtYJr_|_jH5Ri3jIWUREEnUwT.h<HO5r%w^vI8NW^,;&l.DQr(H
  !H~_wvVfmvjRx%lb~T!_8Xmi3QP2ki%*nGU:Xlgh:q=RC|3c4E9BrL0@S5FhtfZ<,aN@e_&6W7++T~;BN(?*,JGU;q+Gw<L!W
  3q0wc-+QkC+_dElSg34F90vsd0~^SXOXh$n2Ea!bCM4j+jVx)!@nI4lc:VgsPvKOJt,$S@BmCA+s3S!sf~@k@UY!qs*lo90k!
  4Z3agdkKkhSPx!M$wrL(7_,chj*Lvg%?M*%jQ4p0*Hr|JyPDhM2=Ms3L.:Hp1(9e8B+Dz5NLD8T$eMxw3+<NNLKc2s^;4VH-=
  <S@2!O>K0D:%hAM0fAe+9OvHV4ThaU&^C?aR+-UO(l^.?.53%9Lcu,=g(3<~kKwwKnJy*I(e@o<lg-,U:p6tq<;_:Zn(B9<j_
  (R|GyYp88u8112qT!YinUXkzIJ>J@P_1)L^IFig.87mbLtDMQKAQ;gk9n8EB~>ewg-&qp)xl8lKYk^xsszJoe^ouir~:U+luU
  VbSsg7Z$~B72$X8;wHhX_L$J-|sYPY4zs1K^Vr)JiLq+%BbcX^2MQveZ51s?_PTA^3ftzOFy3Rw@QW*SE2*AH.IqDQu*8I<Ut
  ohJAGBX$uQ$;wGS->APNKDXFY^1$C0up-aX$8sf@8i~Jzmf:-UyV.(~RPgL,Em7e,.j+n3+3MK+n%iEM>WwRGM$9oY%VP!^&?
  C(eD(50mAtYZy083E;4zb&|Sqh@chl)6R@58%vq@QH06v;2(uFZG2sQRHZ7R!F8KQGa%P>B6nd,Bx|vkgASgKm2T,8G,n8UV;
  GNR_ww_C$T-,b0@wd!mJ<e6MO41IrxFxjc;M1p-s4(sk39%Kv13o+Xt4lFO@d3B5a:@c,C!VLUQ18H^ql>V5jl6,N6Eg.?(rH
  XdrJpD@~(7wWyO3oZcIc<F(KP.?zU;@,n>za(Q!)p1<n6:oAWm|Bi5@)<Wom&P&fy5.A?TSTq3-~txypikg^bdZo0;NVks5x_
  KdBFbOK@^uOEWSzgo:yp<DQs*qVU?AxbB+nm=P=X^luyA@ZImN2n+~C)>MPU!VkY+=WX@D51,kqRYO6%<G:eb3;MQp;JPIyO2
  )ueXuC)>gOS_UF_GA?c)in$~DO+;cDP4.&RSSa<&=E:!b<7P_eaEUCP)H2l4Z_YzPo=V1-u>0QGcnc%3pCJr(G|WyCUsH%leE
  T<@N?RjToiG%P+zm2Zk5Bw8(zC-QT!_=NRK5zk;wAn<,X_XIZ9>X|Muy@sehAtz^E30~u$$3_5iWjY08mvt0o)Lo%v.4CT=?S
  M:0I+zMy+~P:z)ABLTg@UwDD*OWEW7^M:O.oRqMDD2u2zniF9+oz|jl$>+inK@8_bnv|u?YDyaM,*GV1Y19Sz2c)LC3)qX<Iv
  PfdzTYzP.nsY=%g(@mRIYTak=GzQDbHF>z%W:jv!,AUJj~Os52vVF,<(Nk2oZ$>iHia>hT0xmBtg&vNa;yG5Zs>fTz?RfBd:j
  8KA44j0)Wg<yY4qcXImFvb&KJ^~WHWwEwdl)IXy?J%aOv@V?1cLK%$_83G(nm?Ce.>7>2S<TAoXDjMJRnB!*XhPws<B^_dfFt
  %&9!C=B%UvReG)aQTko,kEy0!*3k&o1yq^ABn^v9=;9qIu-r7Un!U4nYvdc);WJ0:7Xqxyz-iy,z=0xROpXP(.n)KbP-G%j;2
  9Iru59@d,4L8a*dQg>YfGtKH6cAt4^kKt!%Y-L~m;s0?9Vq|3w^IbuDp5~NgpEw*lqXC_3l00!i2QE:te&NiahRaah+;S<x7z
  NO_z7GI%9|L3KK%kp@Cr^iFyrCK04gK1T$l~g~oGh:*+__Qi$A;Yd95scQlN5<uf6|DN)whLd;*q^We9:qB7OCXvxG9jmh9o*
  @GOAQOszf7D:B4h;m9m<wDC+Y5Z-$qfLS!DxFm^%ocsyI@&KUDwOShi>(IZ&_ea>b;Z^;9PaQ@~(@)jE4F))R))TqXcXTQfud
  $zHC$z(kb9%sam*Fh+6<FxzC3*gpN$*HCv1:HXl85Mb-qWOXqzH9mdlY@778ohC%?V:wxSm@<-lCi+UDg!VCOBz0A~m~*<t)7
  <z>JIpY%_uR81M$18.t(t:fXUcN>2VPM1iB_=o|p;UBd6~Lknle@ow)Ui@!MlOAmi23CaCKk7d.a5Yl=k^f9RMIYCunq!BANg
  xk*(OxqwLusoV>yX091a;(x8b%CfxRP^pECJjr8z,My>2rX1jbTx._GEi5b%tq4mVn3-Yjq-aGQ_%w98AW~*Ktlr3Joz2F)3&
  va8vLYKwpGiM:7BKEwkj2LuUN$t:35hpk3ZBRb>BlKGjq,2^cxJoZbK3Qy^$N~80)sk1Q9k&-Zg!vp3r54yt$nv$Ktko=KA6@
  F-vV*eit~.InO-+B4MAGW?qo$_4TiPGy-LGYj@LLtNn@w+@9Dd+S!m4sK!Hgi<yhD3JjrF5QdwXZU@Ff?5N)<TWQonuC@peeV
  V%cKwZ1|i6IJgomH^|CGcqVMxN&b!GqoNbypKQSge+T%S@Z~=>EQj5$UHD!iOnr)^D7X(P^5(.-xRb;%sN1g;XY@6|NaDNny<
  f+Ji&*-jeffw3YJCD2:)a7u%(&WAIm>Nlut5HapLCR,g+v?Apb)D~uGS%k~ePG:.1fBg>euDR~ie_|2jGaV;i?T4h=aUTRGXl
  pa<rG;M_@r1O+$X48e^M-@dI*?v+$!0>ge(BW,!eVir|jev)YWrXkn_8t,aBp$GMM.Um(5_TpXYz%R(@|C3DS6o.l&M=HtjX5
  IvX,k!Jo3Fp<cVO>tjpzNtqcM8-?utEvs0j:rG9t,5aAHz$u$QgQ-|~l~Q1tlM.l.*4Tq+9+92&IEUt-QsUz*+h2kcnPvC+*N
  ,h.SJxr!,YgU%PqhT^I)(Urp9WdVP.3NhpieB>xIAp<emZaaEn!ktqZPI@FFYxxT4k)yf~wK>ML-@Iyt9l2oZ>=E!A>J2=LLc
  jDugU&wOHpA7fte+8oz3pU^jEHO!jN*Ycatzf+7QaPySy@Q3QR)jaUZ_abSCO(5@lVnA.fMvHk!$Y>DpbUkb<pRsb1zDW!n^|
  ~T!tWroSk~VP9qAw_bo%,Kc|5dMHMLqY:(,oaHxN9%*&j9j%@PKl18P-!QOgUZ==daJ<^v-L~9eF+Ep<jh-Fo7^rD>or=C^5W
  $;.pRc?yMC2F|Ou|@MFP762igoA9@i_N6>8?|!w$QebH:<yLf8VC*(&eH!9,77hKKzE,Zck6=!GQjuVL;9i,1n2qy$gVqJh35
  WwZf6$rjUZIOG.^k6C!7i0N4*_2y<J*6@mvU9OhoD:po:<_<&rd5m4T&)z57r;M+3>1E$@CA5Vm4>pQYlyj-McwZjku_w?:5R
  RLDEPk8WwyR^.D-Y6|RW:H~Rv;XOXHXO<j@0Ya)?3v$3aVXWV*g,?pRcA495IixbWl:^sCx5I3$IaHO&:Yg=G?=GYF;ev8&yA
  aB.zXvlu6?+k=7qqGe%-:JQ($TiEwVR4jP!:przdh@T^k;w1R;+,j-MxJ%-D6&?Y~q.RnUp?x;x~EYMonQY8;P|,kLEF^e0yr
  _DW6.10lzMwQNJDm9OYrh.tw,+-%_6*MXd^|an2RaophSs~4<|HhR=FSi7(:iMVDZiylb|!bPM_*IuA<sbQeF=e^g$Esy2y(+
  uW2jJ9x+@$l+wJ3EV.C;2@)kTk0-v=yw.RPdj)uQi07ZfYsZ2rflht|rGb~eQv26Q)n$y0rTh2q4d,&B6Sv;AbJI8o3c_kq|H
  E-mgW;5zJ$3)TsmLRX(Y?jZXvP&Cny.)GJ5M9^pl)Aje^n!T.~A<<P;_EUyon80ga<zloO6bO*FsR0_rG%5sRPW34R$M.i$I)
  ,Ttu.K%Wdc8EVD:ylOqKZkBXZe%l&!M46Sqg~Fxzb4PPH3^Tv_rRgXJAHK90=zMhWT.PqA?hNRpRb>QWArfgc!l?m!bRzm;rb
  jbfR7bI+C:p7aG|NwWN<_:0rcBBn~F=Wz$:RJa&yKa.e@&TTDzCD,Sk1QZ9fol)lZm(JN6@,7eX:X5%uPmvH<?u*kvslGOAlA
  Dsk0gv+Q+1=H3B$ttV(!s@&n+vXSO90WV*)>?S.np!AXaCRCmZVcxCvs0qH=bxHY@X_7ml<ljIzW+;lxtcI(Z+?s:lmCh.Mp3
  -=X5TO!LNQ=fuE,bD~YeBt25s%GKxqtdqTm5NWn6AnqU4j,wW&ZD*Mhv!@Yy;u*I%?K_*3T5Eyf>WV1@JfuRhAYdHsJ+JoW~7
  t1;GPByS<^3dEf,L=J(=Xcl@ozQzCvAn<b:Ojwip8q?34!jSls9=aeHd$GGbq@~@QR(4>jQh13kE-fR6+zk?%zU8er^nZzdZ*
  %+5dpIqPkk5R_Pqyp9&=ePGSM!e|m8WtQu|KSVoE8;ZVyz**LP3@<HSMpc&3l@|ORf!|q%i7U-|L;zQi<cEkyM-s-fW4CrWmX
  _0V+CyxRU*rqq?;Z?dm.waEy6QXoocCF1dmqFo)OL0|d.N+qH@Ea2Aa65v(Zcd)P,WH6&P6Q=O~q28!jBS9H?Sz2iIE4nnxaT
  vzpnAvyHENThAR0Cz<Ke|w9:=3e0Gww@CEe@=,z@rOUTFcrTI5EA?tx08CvCmvsMeL4BH=O8f+V@4+|*3gg!s(D^i<9W=oQ5!
  8s*7ME379N=rq2|t2sJA;+uG6EcUCz.GimZi9%s=O8aD_Zh-?c!8SEL@~IZ2U6:<six,d$bjTLZIkU,ipS(&sCLbE16xmJU6S
  dmvR_kb:1TQNfc^9!RO&BBO@2b$rT-*Zuva=f$cDllPxYDo!:yV<q$3twg9-s?*h2TsSeUvuJOT,g$%XUOXzJd.l6c_%~VBrB
  Oi7a+~^,gaDDiX1e^LIV$Kp0v$v|)^yBmG8mQanMjYVn:|FyWbcM4oDHbghlvHz4w_8unuTri=OC0lBgYcPE>?&_RX;~V6V,~
  D9(m_j)vzs_rST+YUWx-V8Kl~jCg.N-eIOdceNMH_b+*(x<@;@wT710k;RQ,>>z4N0VdyKul35f4ZXtFt-YuroikR0u@6Xn+r
  oMSk7.Ji4Gknls(Qqz(P^-|3_m<d;6@hE0t<;V0s;7W<gw0oKUEc<-fP+m$C0u!Xo7;dk?oYra=>=rj8:4|6_>K:+Sc(f3Z?u
  N0y*LEOWU2:o.@eduisC*S!-^O,jhj5>.HbSk*jV1ADkF*KD@A2(2Rj.(?L8.0z01n%92|ff%:dQtQq0+Bvoskloi23L&Srsx
  coVnyau@g(z*N-j2Kdws@d4g?OP)?HW>bg$_k@|jIkC?7!D.Gm>^2yH:+~f(&%zMNdm63uBoc(BnUyb(65)umD)BIP4qTCc0y
  -&$oQtAOv7g&$E-%ZV8k?J!:diC<%T$:HCn;io!~hRDXNm@zx|0PiONk*K<~q6dFn7Lh-dxug@N(9F=;;JGP,T;KJLyB:R,t%
  5zhjYr^f9|L8o&$jHJjvp$+JpE@Jtkl7)k+EXyq@hMk(:O.TMRlr8~$k~8G6UO|5wF^~(HN%d2TTW%%yR7HUa4ZbgPd.pDMlc
  .f^CPr.r^<u|q)x7XY+zhuYPSZ<_h4D>g7GRLF+DX:^Bi*Jz>Co%s?&HmsW*WkFJC!oa|H-bhf65:4X+O&KqrM_7,Jl%TcCti
  mdH2>=bo7E-u&xK|lmwzp?^<7>WBjr!3,WwtWp.teg?mChp&c7%(mrrK21M,XU,gW*M*ooW&>sZ4WF$OAkPn%-s2n!!n(O>(s
  I)e>jcrfr_=jSp%UeGYPq*<O=0lrePSGUg*H~VUsel$b%4d|D=SAPr!0A*pPhs(8M-u^dW!mVp0AGNLwoo^1qy=aif2w*^Yf!
  ll_;P&YsELI1,qf15~ZWEtUQr3jeta81T&shh2vB@SuZ9=U4(TFu$g=7LKDBzbkdB)BMHCkHKVcQT:GrM7*%6Q^&~D5+Fkr?t
  eZ0r*>s|PfQT~Qk|PxgN0JjvBlAKdcx!(ss6K-*DSt@$eo$7:&xPrVC;wlwxeo,?19<dctr7^)_6;PfM&HJR;%^vWuO+P1Ruj
  6Pmwk|^G=mQrbje3mZ_H8$307*v5sHy+WF,1M7@GFhj~Ed0~zwKQfFk3k%.|zR=4!JUW(vepu@4GwX)LL6n7y$W&j:m~!W$Hz
  0ljsqzjstr^o)lhC-~1V-M<~ng9>+8X||^-Q_ck$XErGqsNFP+WYBDSxesDP,grTSQmOh6Igzt$D6HEz6+:LScW,gYXr7Ev..
  QFa_f~5CB0DZ-xC6b(;w+8^4-OH$pb=E_$_f5nmuhT3GI1_a=&V)5GToCgxJdoMV),<eLMdpzLEINsrB|eqx~m=BHLSH!7zki
  hpL-H?S8oyh@$qeH),=O5a<Kqx=,4YP!dDZjP*h|GK8tA=F9!cnmR<NQ*=0$i1qCzm3w?k(3;B(nJ_jdvZEFi|he?>SRYmEM+
  ,ZW_s)XB6Q(I<iB+u=hDGnWxBxTEr58@JP5;N2J32IEi>NSY)rk$g0O<9>2YrX*(AhZ7,2oL2@8(QmpuRn(gcEJElJRTAT_^A
  mb&6!_qPxJ5a$_+Dkj6D&tA;V3w|eTx,SVC.;bdnVpT;Y;CaGQcaK*ZHCXR9,NMPS8%4U5W@qY(+e9s<E(4!HVZ~bo*94T^<-
  $-qlm2HeRrZkfivmy+pNvo=fN:6syc7m<4YTzp!S<wGT-$!Ie*?u0iXnJG~(mjhl_TGbm@?sMvUV2ZcBZhHppOn+XlOlfCZzQ
  Fx.I$mv~ZAXL~k&DfWe)5<&G,i7lNKI<06,Y3|)ibRv?$,;nV|-O1x3h_A7Y;a__?4FG~LMn4=@C.j.^WSeUpbBaoY_5oC0Cd
  sjzY1e$V!rQA>xgZ*-ej5W~R7LlE2C*r_b+?3%1o;iGL<y($9aIbhB0@ssQZZn6MpE+JKl^0fxZ?Qgk.UNf4Js7~VVtUh);|D
  FiNuLrI*siTvaM^f!nYzwlcqqfGp!3Ar8h(qtZV;P|1W!)h9>=w(S!UMv)|jp4UxK1|essdp^l.-Gmhx~J4vBxyc;OuQtoIIk
  CKY6pf3(ZM__Q::YN28C%~fd76H2=F&_0<2qGftF_%w(hZsnTP)xKZOd~6>>ZA@Im_)Xi-b-|b8)i^Jka7DBApNGnXa$sKANe
  Ui@1Aw(XASEtu9hXjBHO>qON_-UD~Pp<rRLUqwTod;_fQ(UdGzQv)e;~kT<Ms7gL9(=-3Tcq7&)gn236CA>Yu~dd|%.mn|vsj
  x-HF$LDTh!D7+3a5id!pe9K7l:T@MTNMLv|JSEseZqZS)0kN&+xVnq6B|TaLD1dZ!fofv%v1mcx&m%B__YtY&(*7Ei;FO?XTV
  Y$Hk=P~QkmFc=|;Q5)LH&tTMh;sk:j6TxneRZ0|Mtm;>M5fMbAI5V>sfJtJaL%J6hUstj<fWP(TQ)-bIANgQp9K5v@y).:a|D
  yxC::tXc^H<^Z:FsL)@9&k@p)GIGVSX!DU|?9J9epO~~3Fn<RaG+P?X(WS9o8tAV&;G@4S7r+|?3M%HzVZd:|m?ioSmDiVk0o
  scA2u!Q)m4QW2w&6U*oSpIK^g)PnO4D-5PYm:K2Epq2WSYQ:KALrDY*&_fL$_%Z!)uyj=|5:=k+;UQOa^DnxceC(WW7qAh;<h
  |Chr5;Ht.<3OENSx:Bn.!xWWNxz.8FRYjXXJrFI7VUShxi^Z<QNPRnxB29!8tEK@*k.:=1OWgtmq6huI7:3R1^Ate~A$bhRgm
  5!k!*xZ6%vYPfKBu>dy-VOhJS(4NL|g|,4hL0vV<0:Hi5.h30RnK8&FO2~OKGhvkq9O$=lok0x0ql=DFu(FNGE4$0V+eI+0yL
  0b-l|F?kPA?S%VaW:T:zCm-HFwEy,7+V,|87p<U:zN^WXTHw=u&sBwN$lAGmkDt9=UQ~C@B_7cl;uUr>Sg&>bzvS)=$kSgHwR
  R2Mt0lHnTq)gc^H%Vb=be~t$9x3D$m6m>YGx2*PoR(R*!e53aD!(!);A1XC%w(,VVBM:xJT*;USBYut-jgC_fF!d^Rrwjy30N
  @Y5y99qjmbbMePqLYh0;jT2<;^PG6@TS.@82xz!F)sF0b8jw+CJye.^jU.4_KKYS<,>XC7>fftKl2NozC;Js%s$_g>go!axxc
  8vr6H25K7&@5GWLFWXf1tD,6bDMUUbuj?|?bnC%$E(MDF2>-IRSak$YpSXT~ovvBFu4CB:ksxOt:@Z,t9s&I76z-ydWX<4f;b
  aG3,4,&FsE1.yjJrS|Heest)5S2@Y77qwnGx9=mkckj?0,Cc(Q0%Xklj~a<c4?MJ5q,L.4TW)&6UTjtLG.I1;+^8&&(yODK0C
  tkahX?1WHhGu$XQ@X&!cuOsjP)fdQygs96h5oj2wuzdWh$XO3HEPCt6Rgwf1A9%q29=5bzOc8O=N$M3V?>%:wWlALiZH+%U*5
  ~mBfO%GQxm!4Pjms2ku%Gb0;RMpyGaF_&MguJU|G-22=5WRbmccbSEiU;8h&K33R~M%N2w*Gp0hAXUHi?3lUO;HU(I<<-LiA8
  D2>V_NB,)X$gbQ;W(fgjI??~L&vp-D|K3:f~Jy7CXA-BEtqAm6:z_yB>*Q3:oC-QaTvZKC@7T-r*BPaGXhUsG$C?A-kHc5X,T
  Fs~f8Mg+bL2+@CX;!L@o|C~eHa))Sgp!US_UbxVLlF(SxK,FJE2Ov@tx2TMwAv=R8m;3TS~$UzMvX$jX4?jTNBP|1Mj%F5:dl
  >kk(%BdRw&I_)AtH&$gfYRXhA:>rD.XT9OA&%8@dUJq$r,W^oxM=0gQyN8AojAFMvKgSwZzmL67(g_bSwj*VtrsNx9$g,at@S
  8KZqCGXPcYVmyY@BgzhaJ7;g0jUcUl)HydcK&MR3jGH-W9fpJR2!NfBKR4P&+$=PZwAglE*A+y5%lkPi1uiP+)otCBer<Tn5P
  ZjZ*s|wUIQm04tbBqX3TyLGxr8BHFg;M_8cUb86F?_3Jg|dF6Fp1rVZk(9E~BovT,?3*M@6$64T8;E)*tYZsA7f1h1iR!|1.M
  <91dm88:+NvkbruoB2pD=8;bk+4,S,jj4fKuHuNKBCIu.o>5eg&3HRL.uIcKr+Pi+e?-UrdGgt2,0w+M,(M%=um3vBq9:j^by
  6q5mVs-(CZKZ8JIYs4!f1fj4B8k^TP.Cr247Xe,+umTwtuZRG_YP9M_a0=$hg|z.o3Ld(HVNyM&4TAOOKT<w?Vp|Q+mXCG9T0
  !MYIjkvTmE?E3wVs0<arnyu8Ha!82<S|!LfiN!LA.m(r*PpvW7bLsrY+&(%WX^mU7Z9ONh$RInAtgOg3av!i&8v3fC%C:qgX$
  vZFRqatNC-^-4LKW7P=LQCPXW~TJ&oWdG.>k><VrAJS7.@r%n?ZTD;u0(u=TR||O8x$v8wxq@IcaBwSA1JD>pOj9E!A$PS&r>
  >V-)2np@9.v|?enj:*W)rbmnX0u8OeXNnhe4^G^IvP~uybRIvgMF&gnMd4._GNq~<PSc0R%;orF6y>.6:<,f<^S>3^s?V8Q(H
  CHDI9RhlPOmy38+u*wHVN^DYN|dRONnM1~aDFRFw%QJL@5Oa15;hPqa>N7o!=dXa.fB1&ZbIQbK1T4|2.X_vu@+zuBm|||dvO
  X^?80KvCcWo%Ty%^^GE5-FQlZq6Y3%wj(fYo<m=~l.Rx9YCr$.MBv2ws*LsyJXA2zLrV.GGg%)SLZCeGg2Ox$Jtji8kl_S3ha
  8&|(ZX<SrlNyjjL4jUB>Tq(7||abQ9Ek+O=5n2LSH3?4l?fHAV=Le4@AX);Bo1^E5V6lPrn!ybzlU>QbTcCJg+*6oR%eb*DAT
  G,OEf,EHlPNRwyNvqex~vig1w0A3$xYx?,Aj)QG2k&j^:Ch+2a^=OwJJ|;D%j~I+u-OwT-3E+Oq(QLuUWB-&9B+(pkVnkre5u
  -!>g|:%8S?:t?DI6mzXz+a;sg_?N,u4mEc(uC.~K2~Y!.s+.U<Kda&qIq*MlB9I|Uxtf.sL2XgyMaW_w&+N$<N7f_,rT*d*|p
  $l5WBKoj?-2>vszz2tRsU|k(8-kNzq5VxFvHDixj@Mt^)-o;faTaGu.I8_f|WOyKtT+c;e)DEC@CGI1tDqdwk-+T(gq1UC.u;
  %syz&~WWZPcF0EBLG|bcoWyaum*A:)|Zhpa$hKJk,@e%ROrvC~Tgt3rmP|u%Eb$=n2t*k5Xag6>h3Yz,5|I;r!t^U9E(,JWC~
  E|qvJr02eG1_e8F8OQ;_D*_:&.b;p)1Gy6O@-G=NU~5C><7>%pBE$|e^9RU1?4NB-b?hlwP:Oam)Xl1fO)7RgQwbd_7q%NkN?
  PJS>%Y<jq^5IIm.T6xA%99B>-v.*j(rziqKQ77e-T.uYR=^0P=J8p;J^n:P@:81Uvo-CzFgm:6ewS+H^^RvF|jEl(R5j7C*x)
  bJdiM5Fr!;lvcdp(0U5Ims=^Tmv9n8,;(8Qvq97gxw$<++oji+9=oPSD_gYlG+rFz,-udoY(^tEQ<Qo<QY|l~AbKfJ9DCYc|<
  +nIrR$ItH@w%mF8|06Lb3NcG!fC$3wD2sHK0,uB6n3m_ywj:tjxP9TiktC*BE?1Ei.89HoC(8L,>olW32!b,rh(kj(9s|2oWv
  ,;?(jAjdG7()(YisQf,^j(71UDh5nOVhr_C7X;S*)O^8E_yH9h=E-q%^l(iF>7(gQ&7_3quNG~h(ob$_N^htq<ow4nfLe-z|?
  A2ee,Ki.bO?g4h8F-pV5<Vtqub_DNPtUVCScP>aW,((1uZyvKQIp5VijEW^HL>%OHJVTvf,Q1T-xcl)_MD))D4U-fYIg&GUe&
  z%*J:)=E9(GIrcz5-KQMLTC*nm3.r;B0-3*qZuJx|?MX-@0s)Lq(wo?H;Wcn;8v$D3:ifkf5.Hd;<j4Zdt$ldc5j<KGYGJU:h
  a2PH<C|>MH8Cfd$@rPow3C!iA_B@MqI-r-=>)?)5&TVdZ!mIdAdIe33jZM)GIaB3$f%I(!luU$kmL(UIGiEIGSMt7$Ol1gdV_
  wS6xm^sTkosdx(tP$S&<e9&19t%kL_DuKh4P&l*0d$ue<isFBExP440(ExtO_)La,D^H!c?c@(>Q^,ar6fv;iYhuYPK<(VhPU
  nqFH~P*owmsB9$_JOflcFWw1*09yA9-yUuz@ctG4Zj0bEqs0uvjzx7L:AU(&?DvD<^Txd4&*uaf3bKa!Em.8Y3@M*.g98?QV.
  tb.~zYn>~Ph!PxW^=pd8y|C4b<n5LbOLmV^5G)RX1UAUal9j:H|;0.)XJmTV2Sb!G)Bf-KcfqK?kOHe>E+no2AcrD$!$UkaBh
  2dEA;c6j0rsDcl~dZ-9T5<5?ebp<Gb+>c-p58;~Afbv4xP19Oq7oLTxBEXivF)Y=kp?<ZE5?s.@au,&q,hy;jkkjC9-pO38%m
  Y=:=<<ZbcDg%@@ErBlmBKQlRMGYa>>KOl=En;T)!+J8)Fx81Zvzp!$_f,OkVi$su+r?VhFrWEYEqpeeuNnKT.WpN6+-??Y3j<
  &kPhgiYG:U,8SlMGqM9Od<ZCbK,e-o4n*4hoJ_UaH)lStyka4^N%?7=Svz6,-R(-jJ9_)wzd6$x$fIfy1J1@(iRd)!7_-5Y;b
  P-K~R5Dh2!nY5@GBvdO((w9ix*M|5*o7^2j,qIAXG$tGorth7XOR!wqi.+.-@._A6M1:h5f=jR9cI(M.lV&^vC!2o?y>;g4h2
  j=^g<^B=~X-!(IT&fQg8wO3Cg&VZ8-Os^DRgkr?PpY!CgR94_+HeRFGRdrG:|jR.MaQURM1rsMep6B~0hQ@$=m4Za->rihFub
  WVs+?XERgc+ZT3zML4AGAsHvYJU~KOB)3X5iYf*xFn5F|8W03|~@pz+.TGYkH1ZxnVe+v0s(G^&E*~$V?9cy99NczP<U=2z|=
  a?vr%oSSyc9RjfsJ:8R,-?uzq5g)7Jc?b4fJ1vxS^Qem9LIk9F@E>JAS6+S+i.nd-Z!zZ4Bto2iYOjGsUy1?mTYQZw-)s(+,G
  e!+oLH%a=aAv%.70^a1oVF-m3xOXm9S;V>cRT)b*ht)AI~?C35o9UA,RB+U_gUIjt=w2;^00&T4qfO~9i)G;WW)svl:uc,i77
  Kv*ISJDlug<ROz.TzqR=_OeEHrl~qgaXx9?Qq+c^gtN.g%pOU48P-hF.%i&=Q$g29LURAE&j+O_1azTXI_1bsMO!5iXJ5Kb.M
  z$Do|ptn!h^*U%&|(=|-+p^Zef|&7NoD:mVT,&z;L;C~2HOb4@t@vuj;eNHyzH*Cj!e1U)~h$OuS7-Ws:4h|-%~YQdk5keJ_D
  ^56!Tvqo^cjnC-Wc+EOQyziG8,f6gdi@8,OD91,;-0^rzIBcru|yc+F,FfqtFF:Z<<FwpJtCa*F975IDBWHF$bhjAUq=olS(@
  <aHAU6CufwwnMd29g.ev&jE+H;2T5v$mTzOW1%.0$.ty|.Oj2OM<r9:IeOWp74nT=~:?u6B_zCW~3.NdJ^Npn06^)c2$n~E1C
  xavsjES?$.Z+3T*-+JC.ovP3mG_!hG;FA<h3,3OC>g?FW7uZi;Gf;E:aZ+SPrMAlA>E&_|Z|zC,yM=(|ejMyXa+rIUsv>iUn$
  K(1Yqe3UqUwYMLmyJRjG9BIL,bU8rRH7$S.3fQPHrvB1R2DKc_@QLlx@6wQBkd<%>+MA|yCV|.qPf*XK)g0lEDoX|$Srl|2E%
  l))pBg5$v|,tHn%Di%|(d7xkY3IbT%gey(2DFK.G~EbYa-!RCfD*3IG|4-Ij?SZ|;=D?gl6&z<_Eb~=at^(eEPtMI)+YzuNRm
  0los.kPIjGin5I^YWsGwXQAxwpYhFx+1lXW=Y@l0&EPq_Ifj27_9LMG&mzSHDN(fIVm9Fx0HqgWFWe43sU?etoplkOMH^eY@5
  4fRjc,7l0g!3*pQV?Hs3DT>zkLt>)v=zI!ZkZnp+0mTG&Ygsu?Cd>G)Hvyl;q;F+o<K0p%&q0Ei~udB9=+Az|2&hp,U=dsNi>
  l.@B476)QEF5u-9K@x)h(Lf!uMdbVwI@Ev2MFS4m5>tU5%~FxN91hlPDB7BdRAH+4N6iOzwOhcm-QvNp;3fZ?>1qJ~QzVsd.y
  vy8<c4bqH_ah>DywU2_Z*fJ|9k^PGD%VrD<lkC^f$_=r&,x)|2sN$b$vv%lxwy>PMj)ws&_C52@uQM75Z!Y7*|hn!fGox~>8i
  xHpch4,.maT.J8+qfzza5PV.=H!++t4$Un6.=4qJcZU|=Ssi36@!of.r7:B+S|Y_(XWP4,.r~fSwsHQ_oL:e0NH=*5TBa!ZUA
  YuLnWT5t6W^0E0PC!W>Rxg2f6N)0:V|1JW2rv)Iy~Ar=c.w=<&LoHIOn!f.55q:-73GP>5BryVmNUiWOU.Y_.)ypjG4:byoPr
  C-.LKnozt3*|g%SDR9f<twXfui8(L(Rle,4E@8orH!tySnd!YRXG&yG!ASf)K5ujkgr2o3.9YmL8(V8+-,tNFR@o^4WfAHVv2
  cI=tqNsRJ?QMK?M;e7~u~FxQ>i~X,E4u~Zb&+xnxkzhzLf:?7X&Nm_9sma4S+ctpiMuUYK5>Y&F>y.=dI=si47I.&=efbC+4B
  Vst1<APF.Om!-f|qR(t:E4oP,l~Fq$zHfh%-<^QCQOz!)dl7199BHMMHJPQuZnO36%e.Ap@-g-YS=d48y=hYUDOK3BAY?&8gx
  =$wpavPM~lsk?9));?O?u(9llFKU+%N6.Z)*+jYToEyDd!BY2hN,7.@MjtfCR@IUTJ2~Kmdk33DMwJLXgZf<-l>$w%E|jY&)O
  v~x0cmf5CD@AYU?731bsq)_u<yPN.p;X7K@xWqw1rJ0?i!p79B(<Wb_?Bdc|KZGjCSITLvXVu7Uk6Vk2F1$WOpW7V*K.ggH^w
  64%fHb1HsZqfnirZKCG.Dw=!T~FuL|GOdJXb1:(qFk2v-NCH7@zR|0uL6=ksXAL4TzpS6u;L3B.~:QgL5BbVMR;NpzpnFV|!*
  LNF;&!~K_Ir%4>T?c47oNLX@KflY63KLC=^t(oUPNTWXL^?;6FvOPP7FG.Vh!y=eN8cy9-Si9;1V(ZT,eus@$i@4ugxYQ!b?q
  2)FJltL(l@Y_c0$P5fu5eeqzZ7V+VTaH)hK<-*S(_6Zvl|rnm~neh3yuP4@=ZriU1Ht-_ugf!y:m?Iuw&9de_R!.@zNY%^PX;
  E2+=IUP)8u&A&NZy|d.tq8uwvmSocZ-&ek2Ocn+DW:caHgV%o@ZnJ$qcxoy0;I(^y.RM^<TUL3+qu.&DboBf!k1!)H1-rQ@o$
  VW)gSx4wk~ER:f@:I2&lI~N:!fEUx4+N=yt.b0Vy;Hz29Ojvh!GW*O@@@KC0f2j(i=m9fy0Z45x;Bhm>X^*cCQpg$6G!V6qvR
  =drmMWW@nZkVmEct09XCk9WIJL~g_1-4xiYQpAY7>:vp2jB(4Vvd^4>zZ0Vse21:br$*;)0@uaPk<u!V+4hcnMFV6dTUw|Z>4
  U3gNBn1H2AM4;M-K:So*wGLKc;B3HgFY3ud~p,mM|G7f(eIj~JL6^>_j0XnguM.HbnmiLcvY?I!8X3KH9jwK7:qT9I_w4;qiQ
  Ev.,v^!<YZwFcg@OS8$qLq7L5?-2_bWs5AFtAlM0!Ucv1)^syKHV$Ioz,i(Eg4L%0S1*<<bQLIFE:B@>:-%Tt4cGt.Vmbkgmc
  XNts?oXWP.0rQ4)Qa?9Iq^:^$G^pI,!-bo-E3eg@<|tDdE=DE8r~|-;%p4zf<IN9k4:=-|~G>@=,|4N8V1Ed2iy&XrZp%i2qC
  Os3TETPFA)Cl<g.qNj<%9.+V|xXxp&_;tBQ(Od,kS<33I>zOIzX1W&sZ(Nymc*qu7kM(pY?Te_AiaZr_lJOxiz?P7el=Euhha
  Ac;S|jyRUTW39QB&$$*F8B5k)v8o30;^%Gc6vt;SCRFj5R@P_;?gqEf;uoG<W>|Ld8ALg&i~n8Nx)U2M0VM9yvAe^|:O|z%iR
  v_JzTj02qu;5+?NNGERXdBd3oAY)(&b+t9rJ||K6)LX(W.E&=+tb0(Iz2Dvq0Xf-B|0nP6glYNFnDl:>P>i=o;UnNt?6D6Gir
  OMtv7xzZgO*sdy82z-$<~Q-*a&_N|rGMe+_6hikf+UU+F4Sbj|-~b4mv;0_PeH*TtMw2.+X>5:SjF1%xd0rq>,.M!R_aGN6b5
  >^Qd9)D3sZggMcby2,n1-F9A5=9UC$68q|q1bV=3kL4_M+x4K1SYGPhJWd1wagW4=sB+F=E~S0Ig:,XNNO^VJR5SmkXs_Q1%n
  xYFSv;BKr.R2vItX_8Hg;vo_hDvRH|yq<Djw6jqX=I4Pc|~iDRVu9nO@Pt4llIvVB*idL;V=*oi2=rS;HC,xD91vayEUe|xXX
  (qTY2-g$::NkgL|->zlF.W3SpWagdO563DCCKt*IASQyQ(z>J:VzvJl7HqRfMKmrB^8NyG4tjre8v6Q4LM_^G.ha*lz^@(&wU
  C_Qm9UBiEXn6mR>.:?8jW!dEVISM!EkS,,:XM&H(:amkiA;oY6JC+SxH|uKnuY3mCD!Gl*PGhf<aXLsg5Fa$JK<h)lF@j?B^7
  4A@8x.uN-X6:ey>AHn-=QhX=YO>Q+)g,D?C20Ypok6jq(R3k7k1cDfJ3^1KU)YwsUTX_G(sAk:j3lYk5&>IIB*J9Y*b=Z*rtn
  vSm=kdR7~,-|zzqb&DxuatS4cWY3uw:Wj@K64~X|+z&u(Lnij+xUF=KQd+j,BhKzSnCZuRo30=v!%(0XR2?!L7S-J8JNNBO~b
  g!jdqot>6YY8G5tZ;LTddX71@M-9I^z?@DHYtcRiA@T6IslMY|Hffle:>HCiXzmgdu*PO+:9rmvM,m+~f^U+N^4-;_UrH8a6p
  ;_^LlFD=PIr9JZen?qW<_7n3=U8JnRcbkl;(-35OwRmoG6$oBy.|paTlQnoIIql70T87%TNe-Cf>;;2B7Zco@RP9v*aIZtE;E
  5K,3w9i9evQS2y*,DXd+zGF5w4e6R6c|:RC$_J<,(7.yU$t8iAxA^N>51bWZ>&X!FMY1y.;S~j<of40S|@b^~I^JdKkcbQEz8
  *jx;;Nv-HJ3lWUoDbC~S3^:+9pIaDlVc:@%*,KN=z1(3Rg*7)a~.iVd^CK_:-%_*WJGuqqmNt_cN>7&x)=?vEyNoM=Uq@QLm7
  kkrd(7UtzDMI?xnrwkk81z<,t_41)oHVW:9dG.0$KB4+$-XAMHV3!=5A6!ey09$H@l)Kf-ed54O+Ov~4O4)U*C~g+drFBa=7j
  ~W6>TbeDotSm02:r@7ZTL~ppQOdrh:9w~kZi|A2e-BUQhIU92HP_g*uVzmn;YAmw+6uRlBZA;@OEJ-.KY4mZx,Sg2Pi9ZOO(~
  >-T$x|iO2BXC.n&AWD-WbS%0R?f7ywMJ;!rho9wY|Wz7pWxx6>VPBnYA;sG=nbYjKPNHQxXQki$O:?tbK?AEcnAU&I20s2O;y
  5!qVRpoCuoGx_rc>hNAs5%5EZ_@C1k_8-BXAFY^hFg5sNEL*=@S|$|T>!%4y*SQOZtKM9.I=B!I7I?s0vwx$l+<y)_QtBQnk;
  zV;$,(n!N0Hd37BN.xU7GhxE*Gud<z54_B@2Mx(S+x?i<nKRMfTHWBxi-Ez;<y.?Euz~&UY$WpxtR1!L.%oUXd;2b@YT|Rmb2
  Qawyr9@|_W2)~GNIpbAlhH:OrUPBq<*$bt,2uD_iUB&:AJD*t-zT=CEMX_V3=GK1(hW9)ErjzY^|)dim?!P78N8B;3e@Ux|n_
  Ub%7=+4Uj|j4fn+5kuwmb31cgQng8vZ&:R9R1UN89y>_$70,STew)wkd,yT:HuP%^ASlx$y|9y^;,HMFQPC,oXDjvh9!TF!RX
  Nz>xj;8uL<a~vUt(zrUF,~r.TvKR=z<kc1@0ju_S.w.sGi)wV6RExaKI>&xce5fBkMK&7ya$@MFnxN6N1;zeFIYIoPrs1t532
  +ALeB,_p+xo7e?<a15DUs>Z$VwK^oAXN1t0ErL24VNUBFXdW.ERoi=US^LlmXIiUQ_1,stRWIXzytXWPQ4<QMrTK%fe.mrnYH
  TpCvMq8lKa2-O&xmDu+0Rl,V%3TLmrAJ02xuT)BnQHrZf,<-vA7zWa808Zu5.R_?4abL?PEqt_1hQ%>MkU-G:KSHK9z!-lj6r
  0m>y2yeunllQx,?O09(KZn0oqV^gxgK4rFN+esw<1&(*CR^9wPmzjKL3Ie?F7uj(!|m_ZvGhGFK5ycfvY_a^XK)8zuFi1F.aL
  vT~*D?^&Xj;4>c^DFh=!fl&~S4!9s2^~$dqio0j6&dh&6jssJ;ad6MTAEthqpzFP3JhFYzh9J&zbMrvKKMq.T4&YIJm%EEjH.
  SKMCQ++0EsLI.*F?sw;e2a^zkKrsUoVX(Q0rdS;8pe7K56%_$:~58J~,GuVJcsG&E2_+xuJ;Ln5%UBIZlv?2k@xbP^^&KyrFQ
  FvDjlN*!oouOiv&@;n>pmhU02QEhH|c+o!Xyl9nmNT0P%p~,KsHB:hQ^?AdEodqDGt3N@x4i2-iBKR^|a&ualA|+Yy8KqyX%,
  @FtvW!gt70<<XT|eJSnb)+hBEd7OCwNvU_Z?YSGiOSvn0:SJaSLY)L;;Ds8n<dY?b6zU+^y(gm.D<t84HIk.BIS?Zy8l5UUS.
  S=jX9H42nCI4P10K&MIiyDr^XY|b_4p4x,!D?bn><-;nDO7?l.?=WxKuVr8ze%OpDgFyCsO!n+-2zS(N)%@s-2j|75T32Y=T^
  vlDooduxtSKQ+sc)N;WmeQnWoKhfpX)*>D6u*6YKz)=z6p|&%a|8kRe^^<1k5-lk4~9N5~IlueFWWF@i@o?34?Y0<x$Dgtwjm
  >%~C4nH0h^B,h!37)yRBSt-&%@4X(44H)?c2p_5>pDZ_PE(%o0m~a1wA6PH4)Df^X~|h)*91T)E?,3a|rulNRM11,X@fR4G=X
  D>%L%:<&mk32)OX%D<<fRCQ-KRICC<9vQrKPGph9:)62zm2Lrr&K)3YBuo>zpWRaL)1IB$AxWu&x9_;%Sr71VIp|4^E:+w|>E
  *ISr,A^;.3;Z0;|Dc^)6!H^l-or_FA+~,f$c&DRSa.f_GMPI@sfW87!=&^eR|.kAYw>8^>W=Hmec&vr-l$Tm|V7716?ecc34c
  z4ALqc*+S8Gv,Uh;=dj:d0St+k8xITX;g|ZL>8V&b*RzjBBjqT>9%Rj57mkqAr.a5FsR~;-m6dv7C>x|U437,JI,wqf7peigJ
  Hv^z6hp.DV~>vQfq(A@S2MM9o9n3cd<Er->X!&Lud(0z8(WzD|y|79in8JUk?-VfyuVuKCd&RT:3JX7~T49%ur3FfI?xd$r,;
  mhA(sm);kpjQbQzY%&<LV+fC5AWL@f,eqxuC~ouXtM3_g.R,:r(K6z6_N8WtHc79zg24aa+FHSci^J(z!sn5fT5wpqQd.-nnX
  5)x*p27y&ai)qvbGQO11AW23mMepWXQc,^d*obt>yFntUV:$a@DQoLO):guYz4~z!h;E9E;$BY*-ckNM>>)DN%-36)Qcqpwoy
  8r$T?apONIOpjZhMJ.=g.o>mAR00a<OAoc<5!n2qL&wm6jU%E0J@LOL@c_Q3mHI.=~f)n28OuOY^4e94G7&6v09Wh_X:Y_AE7
  dYMG39hRu@m>6H3-;J<|vMZ9>xNJ7oa|l5TVR-6ykhi0-RumJwkMeh>P1AJ0W_6izwde:KA!$!rZiCKebUK|dE<te)seL,if1
  :KE^3L-2w1c8j5gr2fGxPAHD=X&VXR>tUewF2z-h9WYRS%%EGo)EvP|v$p9@E$tN<=Z*wW|98$*(egQe|5^uyqw$xaG_Maqs8
  O)NniAzM(fst=;JpGdD9Y=r-%%HAQP|!7i64aaNm(bYCm8qif4$ueu!u8RMgr;U|YJ65rna3dJ%~3|FPw4|nlWw!8p$VonU@A
  8,N=$G25<Rt*2ZCLjJywjis5g~p7>|Bd~Bog.K4E6S<FGj6En<b_jmF)?fP^j?+hAqQE^$&Q=%i&1qQnIP*Y<3>@Y~9QN?XSx
  288s+L%+QR4cMXvuHREO!4?;8J=.tEvdT*rcC*^:HOpBxLX-Mw%)W$:lTr$jt+g<yJ@v,@&:D(D$MJFvPD<Uf6E<S?UGdBJ&a
  v?+^R:MnHZ|w;20h:jYwzqLeG?jlxX&.O>EtWcNw,IrW^$<i*903Q_J<HzEVEip$r^6ZMj5a9wIxSeJMY(CONJzs-<V3Y<%Yg
  OFCW!,n*E%mq<odijVQ0$T$b*^m8@gg~=qpHR_EAF0O$z6&>VffXs1rklWlLAM<j+FbG_yylOq5YjLkNfUayE-G$AQD($QG%A
  mQ&)Y)FgjeO;|ZjTE3+XRVGVl:C.((RX;,1hYEVhzDT_XGhp(-Tk-2IskD:xrAXJI$_0AKav5>u!7_K(rHA7ZGevK41?t!dUM
  =QOxH@JcUsPXarbYS%.;FNeRyPCVx=wlyH>V^q*^y0p:Z3H5iWNL-<Mxvq@8F9>_K=8@mUSkaFSf3Cd-HmF.@XMA@f|ix*<.$
  (PN|8L9LYy5Hruf-Wb.%$9LVe84Ng&3QJSa:scdidq!KwtQMzk6r5P=A7(U&C~,OacM>LM<~r1ZFNx(0PClBz.Lm&u@3gG%g$
  b)@Q85wo0~U-=Jci5Yw?$,z..q1I~8<TTF.37L~1x1W4K0@6-)u<$O@@cn%Fprto3S>Z8GNjCU>C<GeFX;=)zn_2t>(XeWc3M
  4QfBMQC5y|DylAEXvZF;CnD|:cOr&nj1A2evm~)Xo|W.le5rs?F+QwOzrZqcvnqPNskuvMprHJH|DID>y92CMP^<kJOMkr@@A
  3ok>.fhX>@=WqSoO;(DJEE=JNy^A5Fft6HS|T%hjN0@cgsV(6)O.azO7-S|mj-:!3rC.$_lrQU7X7iv?.~P;t2Q5)9DEbBTws
  Db3|=606CFYRgfgm(xq+fnjm4hn17epz%;bl!@O6UJkW8Ot;B?l>,~WPv:((YBMR^by7hixR+SsuxA.xv_YYXNDh6f@r!a8nk
  4*ule;e+kXauzU&:katRm8qd<KA)iuQLSwj((tUTj=V%LFa!,.P1vuiq4gej6e<7@|k*gzGH~wA>>p,9C*z2|;h,W;*ma@1r-
  +2<c<,6EToLtT6^ty<W@+tqE(_er)^JmpipfhWjDC4lSwSeS&hJX|qNcKsYG$H5=g^?lM.+^3FU=L@,U%s7wNuI_oKCRW2Stb
  &?,W%@.8=d%-%YW32EvQXG:Y*0Ffn@QsA8aCUY$djw$>H!ERRtVF^HKYu=H=O?eWbZT:.q<s**60B8WbSHuVXf1(=;.>+F1y7
  g.@qA0CB(J7(nn)IY^ss$m2g)z@3Vl),5qbB-Ih9gB1g6E8^q)q:6*%VvkoU(LXPpeW*XM$p%L,~y*hRQ((A-K,?u>M6X3!(=
  5F4Gj%fUC(Y4jpqB|.q36eqr1i;_n|jO,yc^6!BN=Ng,iGbWctzjz)QkStH^N3~j@Ml1)?$HC,6?J_SSxy9Ed!9PA<JFKc4gJ
  rGXQ~f^H^VuXo$tr?AhLsJLi<q1Rvq@9y:<&wOe)6>$nVM2AcdKo|@L~c~owN-fMgZ41azb@K%1AaeZ^t9sm^hnkAXl6Eji.q
  RL6QJP~2Gwk!;,PX@VvMwUN5Bb>^nMU7IhZVnTULWH.maN2$3$p~XraptOh@bz|;N7+OcuVD05<YTm%H=uG6%N>~+cW&iUNO.
  (yArg2wORLT48M:O%27p!A1KxDO@I=8ZutHLC4o@tsC3S6X(jAnEkY9!Q!f_I&F,3d(01Z-_$>710Uo5f*o>fmzn7!vauWjUx
  O>F5wqV,A^+2-()ZgZwV-^S2uKR19*wQbls@?.NFPQjjtdQ.ifIh0dxmuwuab@m3&$f)^P-qCdC>c2z|wG1R1zBrp7dIuEBH_
  )hv%J=&1+lJ>YpY$<?>Nok^M;Vl?&xBr(P3oG|bl0bboK,WS6gF0lr,M~&i?^|BgP>2;S>N*Ueo<jQxipM9fk.bf5?v6u!^KM
  OLE)+EZ0pPV)5B$H>Uh>.R&h21dqYIZt+.:!S4a,-Xg,2ky0F2Cg-3mRXnlvCAc*?K3<~OP7|<^X4;27A=Gmjc;E-VA_HKL*:
  foIQ%&NZ:2vvNOV24PY~F!jci6fVhu24hpT_$7y04)UWAQvIEU4Ak<73VGZ=dEL~oS>H|qMhfeX)x=sIPqk1GbpY(A^BRkh.Y
  f86KooW70S!)1sGHw5M;TX302qKFOgte^y8RhbohN:YHUgbgTX<9S,9cvCijt5de.gI(&EOh<X9Bb)2;5F:A!ddr,R*W6(LeW
  Dnww)8E.)QN=Ii;-1!w5H&^w5.P,%+dQ|s!j^^Kui:RqMgv<kh7A=BIa>u@U1H%JQ-(-yvO%O99(ADYdg^!b$+S!,heu<U0~e
  B?qKF8SUd<R*:63Hv?JOmlOqe1Q>GPk^6mrnf_I527c$IR5G(a;V>M5N$tH^&&ImH*Rt1>Da|LzDact$W~b@j:P,u11%7|D4o
  uh)=aE<jG!Sx=uH08^?Qq|~C%Hyjmx<j=bHFZFZZ%b^^TvtDUjWU?JZn@A>WE(9:=oW1CC>qa)ZA51r?<5s.9&cT6=Gxx9l;h
  ^qaQqV<0:jF__%k<O?@M4.s~5:bRdXsdi%w9a)o97qoH;*ypRK<Q>RuHQ.OPE:Alq~hs(3bLvf>du$u4Q|Mb)K8D*>,(+6U9W
  gZ<d!QpbmYDEtlgN^v*Ny%xP@PTr-l^Wm^9iXW4pIG%1N)oP9MI7LmyQJNu_u(ffM9(k0:Zv2pptMfFj;lIqVm%?OS$)<s7QG
  trZ3:dRy7b_Q5Hnz4yS(-~l,C9NnIKSvm~=dNQ0lgFi4%RAw;89Z)!F1y~*!|aQ-s_O!6AZedtn?K|?8PoPG-(WEB$dxFbp=D
  u^ws)tD5$BC=v$FJK!7GtiQaVW=Wg.=KRA0%!ymt~EX7~X)aFr^mYb8z;)YokcaVbU;o~8?IBYkGC4%@|lFo|O?J?J>l?FXTn
  Aj4g2r4ZHUX-$!|%e8&U?Ez,vPSbU(t%g&zbx@(8C?yMJ!B1^xNgNQc^|WS^(2QZa8dtYcaves:mp)ii7R>Sk<*m;4,^NA02V
  ($iEQc.RQ;8ai5ZnBM~TLwL,H@,(7+<^HCERDu72~xO<=przGZf@ej$k;fs|YE29HlE6_j;>KS*F|@mT@^dxsHmS)fWKg6)!6
  XiTG^.yCmhPg7Cv62f*,eAyA9XrMKio~&9RGn+wRQK3*,SCMl.,P=P!>M*^k7Q;k,UV$H_3P3q+pgLbhRZ~*:ERUB|!wBRB>C
  kSpfa,rBNL(<-cN^l|AYlDRT!~2!msWx.e).._BYGS4(dOxHafZVhUahe7.0GpDF&W$B&p0jtx~iF:P@W?SeeN3rAL9tiEqr)
  q?QZdApfJbr!.91RD(?6u|zjTxR-VspD.sZEijuL:,.C5E1kjlXbZt)7C6g<2FYfc)Bu5Gu$k+v6R<c4B5jbjzDm*a$z93qSA
  f0SSXke,bRatz?MW3YbtWa;:ZQ486&f*c;N*I:28iTwSJL-cWsECEh)XLFW0tXA6WPiM9df<(TX$-@@J=AdFHX);*q4n2AFTY
  sQ(M4qoJ_o^04D8-@WHkNP9CF)h$!C_rhi^>gDy~pnj|XNkagZ&6hfCf:sl+6fe1!f%a~Lx|OrJMr!!Zuy!998.Z?hALmQ>Zm
  S*IjX(FPB_xu7=JHYAQu.E3I8LMw3rJfxLlrM+pv:Dy>C>T_>rbTnfEW.u7E.%ffL<J+T<0EQ|^ZX^hMMVsTfu6yER1Br&f;N
  &od<<lc.5-G+b7H%Nv0>UZ$%cQhJzS<h)F8C:3MrZdS-RyNVzCeEtqEL,DSl5S|s&h-x30S=*g-pCA44_E_pPxLYYQ15@Q2W7
  6uP;&+S|S.)6DUy|ZNz?WVZgp0V%DJ5P~mC&d1Yifn^7&^y06TLz2ml9wh_fXDb-W|H1kL?MX?RBDp;9JBylwqjAVG?<jx-zq
  DZ069Z5aLG:~|7Uz8vA|3?fzuA4ylJ0OS5Z3pWc%$i=C0T$>(8_2rX>&:yKSNw,bwEP|~L!EQO-MCGl6)Z.zJ*URKnyBC5gcG
  6Y~8|cA-~DdlLN!4P:~7hhL|W$QQ%0PlWe~yxK6(0%=o.Xc<aDsPM$TS6_lKD-KRftHr>=aH|@Dp.s:C7I~Ng3w$fQ>CZQ7Ni
  =dc7fRAY>=flp8~|8q;jq(zj+O5txc?<;k??i!QnkLATFCz6,eF~P9fuk.Mc6lSKj0Zg5E-XM.JAl5!yk,-AgWxQEnBFiWot~
  aS~WsI91=LSs6T,BcdKEgS<tW<a~L-W5K9z?.QhRp*_DlmzUDnJmn!ho?!|+vF3Yp0+;h(<yWjMFv9G5oV~@pcujwvT8(=^Sd
  T@xD%2Epr$rBFi!l9pQzfwG2e^uBbtb$37Na+8>eHg+5=8-%ZVJ_+;jf<<@YKw~<tEJEe<Bjhk)<mr>2~dr3y=2I);S<&~1CI
  |LyHpy7:gM;)qv6)7Q:HYLp7kLZ_3jV8vt=$QogTWX(nOfzD7:Zuw!Pfj@&!X7iGf+Z3zM?BFt)6HHyocY0@jwv+!5I<FgD4s
  r_JR^T|S|Pl2.+ZL+gUV5x$9lUQm&,$9;GIR_uvY=q&S9f?0%2S_fU.xLw=_A:l0=BNy^l&CCQV(zbkS6sahnD-vAl8,H^f$o
  x%U1cK?2Wl4fpsLGas|=c77EW(rA>8|>x)fk5fz-lV@KhaDAg2^RY_jZDL7rj4o:=7qbp?6&f&D~SE4juNpBDhz~qI2selfAZ
  n-s@o23Z=.wjFki*1~xqOa544*xyWT4=A:P9HOIM$Os7rD4X<D9GYy;9<?8u&44Z6+$wbwLWL=6:;&<A~dOu4*=K<r35E>r9&
  =X0atubR5F&S*bTnp7pq*3Y*rP8(,tjEt5X=fT0.vL,5.%BNuC^kW8N@9je&lRr52rmMyTTmkZWN|LNwee?r^K_*A^L|kJ6F3
  K>M5Uq0GbuB7^>;NZ:@UN>fqhFnP)vFT?f(@eo^xYRyODQ4G_8.NU8~p$zBMZZ7J21aEZvC1syC0.zQ_P^O7%R^NhmBrYR7>)
  ;vn+(>H|!A8zawgIA_3h~A|Q7(iDU)?c$+Urpr9Z_JA+BS|iuWM-Vd,?zF:KqA(Tu)4MJu;Rqf%G>sJV4EC_C?3lp$7E,.9g9
  x6G!f(e&$bDq+PcG&a,Fa!_+(yx.@feo,Zqnli4%8cVa.in?A9xmHlM|gh-$E,;AY_Q.|^IDG%&%a|Zjw6$Of1|XTPZCWJ%NX
  gF.i>lj_JO<nLxgeP5pVTKqN2WX%b6ZSGB*|_-+H8qX+VbVT%(UQnC4Q.zsi^z^twzD0h;j,fesODLu4r=:F7;vl^!PArrY;S
  @$f7>N^yYFoT4:uowf4H$pi5u|(F5v6LWE1H1k=<Hs%;35i.@joKYN<jhuG3jod2BA=2c)RnfMieo1Qd4Y_yPlI|u<&y,7)=C
  ou%1aMJ1mk:;UG*lMBrVCL-iJj:JG=X&+XcAEnC5mh|GE),qk$Bd&%;P~4Gz$f9ng_O|Xn7y+2Nx,@7--mdJtvI*Qj*$^!LL<
  RrSBB8t;L5eN|x6t~NbB0g.sLL.s)$CtadYzFiBN=^OBcMLn&SYDQf):ki:->FQjZ99U_$K~x(pj1.Z8l,BLrML8;.X>6$ycw
  9v*L84|b,,@XYUN;2C4+7eTS$Rg;bo|TRRXbyK1k*4)KU<2x:-ZB&TTyS$GkPhg%$uy_Crl(5$.Z<nMis!1hSxoR?z2H?a_Cy
  RM*<%$*5P:HG-;S:N=sY?Zbj!z1T~paVg~>4U.B))PN^,u5R.%,E<BRg-=8>QHd(roGhMT~E:mTccXo4:y1rITSP84?)Z<X&y
  Dv$qpi49$S~Eu63i?J~);-)9T>gi;W1!oy,s<+F2r4_4c+NE*nO9|*uHP%jOOKcq.3P.byQ5p$:9<iRtQ<2)PMLM4e)2d0M9i
  O)|2n|i9)%gVc*Je1dR<O*E@rV.XPD8IVyDBBQiVez^*s^PdMz4B.1F45fMV^+%:VMFTc3hHN9CDfYxv-gCq.ds+Y9jdmpADg
  Jfu@4cgHV_NjXfx;VB&Pf3oSZzH6YvUy8V,bW(@*OZX.@ZP5bAs%>0e;*C*2Pv8ZYP*48j-GDMr1A_+qDd:?k38Go824Q?brY
  3Mrf(.YBd0vf9)QD=Q*_e5_vsCe47!wQ<j,Q@J.%PYoP,6B0CH$Dyoa+Y|VIY6%w>?@aq-(r)~sNh>~hA!N320R:3@Hosk?n*
  v8Z0RZz.8M6PQKh&<~cI.bPYBEMjW+s+r9Q-s<?+eVvof1J$3y1Gt(~yaQeGh~@4yKZw.AiM4|gYywKF,Q64dC8EvP35GoK5$
  mbZZC0ENY<l>7WhB.w.o@c5JrUotjy$P&upHDc2yf%C@t5@<ib^)YP%P^u);0g84*QH&Dc+UOslmhLgQi-ba6lS(s,!w4CT.-
  eOTG)VpG:|ct!99*It&c<Xb:^dH&O:fQbwV^9YtreFX0$5N;Q|&HK9MhCcKrC%,Y9!|cxUuEGsJraWl1;%E5JH,=2u5,XN(JR
  gPoc@iH0@IZ:k,fN^=^DzPG-mO%~7(yxn,E_cJ_GPFGWUku!U+mX,mTwuh=@T7~8i!Qf*pmIot,)5Lw@>qE:J<<(Ksy8Vm6VU
  B?13ZSw;j4l*1&9eK|$IEc4&lZ%x||vsTip,l5mqo:)>7^+qs%IuiiBNE;wpormd>6ORmm=|~)HdgJfOf@!s=W*|<)3p0II0a
  UsrXa7=1glSJ17?fONi%WjU5mIuQQ_?zA.i5?Q=+ij%a+iN|eyNkEolyCD-y&Qk^F;Gw2Jb:bKU?%=(o<u4^2_wIsKb:RyHx5
  .rJ*7*zE>A-WfwKxk(LG&|!aH;?_K3;CU2OQa%%^kQEz<o:|xXeDzuL,=W<,%$B)4G_T9TdY+o06&=pJe0)~vx_x(40NzcVLw
  ,@b*aUOnHAdN-3pYDd<&+LSHi?52D1e+T2|pO$wHGdDx%GHO(i3kC680.Q_BVH,3Q0d.oG(H?:BKsntq.4GzJ5WFaXCKpn0Ye
  IV%1Ht&C-:q%)D<SckT^-XQ2a%,L!^rA|CKK:?2H(T+?cZA=m6J.TdMS:rwQt&T|X*B9i@1MguOp;GHkvMN~tCZ3oY_yio(sn
  PFs1KJ0bd-Fqqch|FLagNBK@$l;hprKCvX,0KzlJaCg1_sO*96m5yKh9&r.)fLl;cR+m*sg_R?&-AwQ6s<Q;eySNWUw7pa+yz
  >_qBL5z,No!1^NUHbp_UCMVZBDBA7GVq(k)rF~C:^Vl*px>~M)!1*BDx,8wZqpyRWDjnhfv_EY(dZCRt19>-i;49<fA>rr5Qe
  8:5.xb&ZCQr2s504e0HKy+&e)fon5I.PRu|L>aR=y<f^>*1D%0*w+bq9YM)Ftq;Swo:ABZg&G,H.,!XvrD3viCTcXBFZM,Bpp
  <6Bo|N,oCU;ElXzMzb@u70K$O6|jDQj1@)^;T9v!26wN2,n-;y!y%lDE^8%NF_h&=BZ&bG(_eKwa|AZpa!4C>v2OChoo9A)dt
  ;47^ft!NSH<6D~(15b@XBo3o;i5;5q*,kUYGePW+xv~twE&(Y88MnDeUvqn%|7HVJp@$b4sF<WXW&=N3E?ki9<2KQAH06km5O
  p.U+Kd-;@|QgA5N$$d313GbADqVPf@dvc,l@,ybeu4fnopt*T:%8K*9&bI_4V3+rLBGr?;ZEZ^<IUR8;sq7TsDhwDpCmIZyVU
  zeO7l@d16&oeTZ4|ZLVdwan3n4!SuQdFz*LEa_TJo7;D|f^osIU7fTz(gR.G_g9w^AZUNKu)5*%3feh<$S|bv2IEdjuw?OCfk
  ~u!L-wV:+Vjz@!5%vw6$UnH,OA9,0+yk>Yu-BfbcRG?*5_^kiG1M,p&2Mv6a6FR4wj54k&>FCSct1?dk;cIci6izXDXw6)ebo
  <r%)eb-WQ<f&($8W@wd<aAPsQ6uyYU9<1|3)~):9pejiu1vZcK:=mre87*s_n=<t@IClH7vDss<KJ:TWqo|PUhz3G4bSkwga@
  nR^t<~s1g7b9vld_1~GFHuHtjNl-avA,D^=dHRs=!(sX1e77IY+ns:DrHADf,T<-:Wz0;Bw&0R!!<%iQkWd52CBT&D^9hOCrD
  ivGkXOVE%tW@1Aue<n5Wvz&>U7qS6u(KwOw4@6p89.&,YsOW4z0<gs5D3t-XSPqR&<z4-9:^-CPfPV76f3ULM@B@oWj$(N@Pp
  4+If2k&qYoA-vyIEoG|,w(T2!WSdj*H^5Z;~yL$eYz%d$+^zJBZ^UauCmVzlRPYs;LueJq-C_I3C,XHI44a,4.DC?Z6^~cz02
  DO2JlGl1expYWqpE^O,ISq?v)^N;%5l=!n<ol&Ssu6Ebk7onxESo)$Y6TLHhuF,POkuV1^kXfARosp^r|&q2>^QVdjW~G65nv
  nYcCwF,u2(6dlSps@TLh>><oCfxwr:NgbuOfp?P818XNw.))L6oxoZg&:2@hJD+hV~_Wr2MJGn13ab%FC5%Y$%q0y!l.V=r65
  Do~1NWydJaIV|_6sLLWm$4?2QQ0ckCP>4TD@L>*VzZ_tHQD2CO+Fl&SQdnx!CRvr:T7d..ev3H+|?JmntF($.+9IefwDI=jhd
  MP%yoTE,Jxav5S^IFbwvq3NplrGbA~N,>7=m(BRxH!rl!(!VG(7nG_lpako45b>2Dtloe2uvo<V1g,Ee!~)xlay~|W)mlzr*%
  pWeHm32nxkDB!za$Fx&L4+-sz-Z<&QTocL~PTpQeM0&UsWXyH*(hB+fh9adTd2y4awk)hW!V*_I=_ivSRl6@pK=I:&q;;SBWE
  M?&8%k;8aVCRxDe0xFs.ICwEUcO7Cme&YP2dM><J&*51%!Yf7x+No!pD$t&RL8^<aZ^(OErhBs&<^11qL>WCF|_dBEs-(XdkP
  @Z>o:2ptCF_g4xTCYYk&V!ZHC,KpAO(+u<3c8*?4T:2gxd;d$BlvS)S1dC~^7(o0~1R?^XF<s0+Nsdyh(@7?%e:v<*<wfih-U
  jib0R45kFw~T.RwTyk-@(nsh6RC0c(y%2J(k!+7I~ynhgtLLEsct-4I5o<!D3wN&G;rE*GFw*V@sMHi,lZ1-JL0vjU8ATYDw,
  F<JO)<57vK~=Gu>N>^);hn)N7>7fF+u@,*aW?alVJ*<E!I(0*JxxM3G8cm%q|RA0?C7pV9&^yW|vP<(kHLd?KlAL36.UJ9rMx
  b@llWgc.$5s!8n=GRxm>|J_oV.R|E8*0FDJY%~F0wBqy0y&KE15HD+CEBo;G|Lomk=QbtNJ~RJq;qj95W9qTE)HRq2PrhpTO&
  o7OrX$y0VtB)9meoBk?%-R)tnHu<f=t2*u1?Ae|9t!WvxH)Y81:.%H@M6DRBeZJtuzlRUmfDG)*J?JHY2o<XMJp)+r3P~G)kZ
  t_@LasrHODj<O8@|NK5PX.54tZ!(FvEbH-+k7d&-y|7)6!x$~9?6$?V~!z;CB8MZ^gW|6Lnc%&L:cM4pa:.~4CGMniQtxJ(da
  xL0B=jnA~zs@XRB!:xdY*QO2PC~DAxZx>|-k?KhNC6uTjLWBf6l*R~!tjWu9LYD=.caZ-jm(t$gt^HyCaFNF=Zyt^DVIMZJ8Z
  >FNTxK$GP*Uodf:cbPV%(NM%i|UHHtJZ.R)%r-ql|zQ;uI6!5ge*WpKAZZH63~BK72HwF,ns|a@1AL3MmBWSrh?7QX1MtQ|,p
  Inh(apl8TyCd;m@MiNdi997?emODw*P@f9DYJ:Uuba?wOI:tGg2YjfUXLF9cXkB)5?JexI$qGeSttUn>DgNxvS1?vA^;5_B<t
  XZipSCgTxMOTBu.HEOmrKj<oMnG|b?^smK!Uh(n@1X^TIHY^<5Wfo44jW.(TL52K_LYj9m^@Wb,zbKBAzjJ3p9zl>-:,&ZYe?
  hN;|K+L@?W~CC2)d7E:Ou~g70iJTG;t3:.9wBY9bdm*x.s3|:JP>U2GkH:F-j9g~EYVjvLrG0<V&z1&En&g|@3Fw:(z.u9;Q2
  q=LNF1TkJ)-1NnHKvWuFmRi;O9l,0W7*C4Z;co)m7(zPj)MSBt6F>tK!RA;ju>T,wI5oJ|ntbhs9,$OAQ4Mmi6LRhVjpvOXRq
  !DpVdGXI~5a~qjThwb89%8%QHGkE~HL5K!o:NEa+2D5nZl,kk-=R1swvx|;bG7|z)7gb2+ho-hVoWnu@feTuoT;3Oi~Tav&:P
  Byvx6k+)K(&YD&QMcz8-B,gfa9U64N%6,OnniXg~%dW5(q,0C*BMahVhP;f123_&Z20rZ@)kQ~oOq.*q;0kgcVy!sgt3^>f!W
  b*tlBb6n:&WIAFZjIADqU%D:Q;B)Vy7DIGb|<SLD&HN6OV3)v(JED|2!OxzhZ0lTtH^|$z^.g:9q(tYPxEof>;2%^OD4>c8eK
  +~nVI)HOW&3Sd!YF*jE-^tbfU_<QcW88xn<<c2jTngt,%6E-~s|7jJOJ|<cYMM_!*MecaS-;AGd-BDR<lzYAoO7Gd:+vvsz_O
  BsvnF7821Kz1iadyq=$6Psaw97w+|P?1jUDFe>;aRWoV4K>nWzNC%Y4+Dt_PIs%0ofvLafWi8hEfwa7eqTf&bLPtDdWGW+&G:
  QeMtybqN5EWoDs60RK=~N:bu0<X?)3:=t+%_pjx,Nrd8_vK)~66R>KK,_Z05njvA%Z<m5,<4cG~A6s8V6<~hB!%gA5%z<=5A8
  jDo)Gj2iA$eJKV^KHlW7hreX7ZEhY*gc!6iw327iYW+Qn;fPz3xU+5Q)%lxa,1tQA+k^fEL<NkV%5=s_<nFYPi|iO|V5K=pn6
  AaI@RKHP!@a6w~dLgKHrG_QpCCA6D6)=iW+IhvCxhW.h9PM3Sx_6apWG0.dBBoXl^uyL(L_HZAOVzH$;qR&GJ|DxBjwm>G$^Y
  bZS4:z12vmLkC4,xQfrk<lns?~c>HdXR_i!o-sP+(Vo(M(HS&*%KR.yn*VBbF9)%Gr^uryy_:C+|^^tR--%tH.WRTQY*N<DDh
  oe5;kVfU?ffNdjHPX9,Zh!kh&)KpYnX0$s=ICXX+BjugZ%(aTzuYX8=~fb,yl1rSQlA_49:8e<dZIIJ!j=W*@DjZzg-6rLXyJ
  u>v_,TzS@$Km_T$1X&x:WD8raL<J3_@;pn*jO-=fBWT;gd>7&Ut8Kmw|gX+=HfC,&SE4_t:v!C:$O6%7nbV)Vg6@w=G7.V%~^
  ;S,@zImGUxWWntF!j4CXbI=%!c,8mKbKUA@z1:)&f!hAgtc?Ra7WuVO>LZu63aTF8pNej<ex%=JqwP,.o&.UG*pDg)CEhZe|n
  Mv!t1.-K9mIdaKcFvRFyEsrCweNp7i@5On?C>>|=*;fp~l%kEJ5?d6-YK|Il,7X5y2v)KKkTFYmTQZN0YO+f:=C7B8wuYJOTT
  P-V|^_7L$@H?w+.&95u%tAkm|0zu>3LxSRJ(>_9(dxd%wb^$H|JRt@y~*DKQnByA<a$,m=^%^My&J5wNN;yw4zKOi0fC>nHU%
  >:RmDQhFDMDLh6U=UON!(,hG0!ar-^Sz1nRlgROk0:n)ppn.Ml&H|pcN|a>ZWi?dzv0xL7:mup?ABY1C5%<W5PFXXYz12IV*=
  9@zOMBRqvnoMc6lpxFN8j($)APRL!S7$IP@fRQ(oBNQ^*eE*_8&1*iaajl@:Ra?yhQP-1d%.jZ,fv)_qxA:sDs<Z|zfqe3tae
  LR3CQV|xH,jzuK~46tMb|cVuHXH:Gc:96^4s;lts~t&?Yjs;t22qCYhVWt~DVn5Bh+dyV!1Qw|9A^mk(L&Kb?yA<:a1:9mz.6
  _z;HCxDCRhH+NS:5?b$s!Aj.=mkhaUC5GQoLefpQ)y>B_ayKR2JUIzJzWehUt5?hdn+U>-v5,B*I,=!Jhi$FTAgu2erFyariU
  O>.AHso627<XKaL7_ooJgi^VCiy+h8PS4B2(?g%D:1L:Ox_iwwjXscP7ZeiPPQXp1C9SBc,^@Zc1&Dh~.sKY*^M.LPi&KOssS
  geC2Ntpa$aLT%0q6iowr<nn6zmmVpmWN9EUhPaI,m>UUX4wr-^DmH-&9Qhd7m0_<p0.VDeKkrpfp?Aueb4CQ7F~IwPx:a$+%:
  >CZ|o6+(,7lRP(GsxNpn0NEbdU+9,1&cY.khdeC5L;if!D!UPZq)*t$__9M(^ObRjwk>uxfn4KPVCX!A>W;i%(TrTbF4UpE9z
  ,0>$hB.0a?^^=0|xR5KaV|:*ekt!HX>Bazt6R-Uelkg4z^2|xYZABF+3u-eKX4@R@!EKa;zsC1~BAPC&ycG|7P(=-z7wA!5I8
  0<dGa>~F_?8Jb+1%jUFlrIF%aL@EC=g_~a|Y^MlImtCN&iks&~xPBTft8n%<I)fl,)r^G*AT%oE~yzSxdLV~*9W0S|jrFke$R
  WES=B*vY2;=*o7F=&9iv7TAsP+~4QQ&maOWz_F;+>vHFaI***Jmn=S+Tqk%lz.$;C2l.k>QtD)peBITdzn536i)!<U+&m*1MJ
  U)7:!mL4JbUD4;XTRG$hGe%wUAsx0V:XcGMiu|(g@@IqX-S@6qE~nriubQi~8Q*QU~JJV_j=C?3Bb6%WR0Zlb8h.&;L=@YQ@&
  Za,R;LQA3PZDUWtoc8IE3HguP34$V6:T3q,~&Gtr<dbVs8*plw^FUULapFgA?&:TgINI*k8_1)jgXh.q:jTYM.bPj5lN<fPIh
  *(=8_@)8=aAgjnPI>0k,ovu~7,kW;l+BvjZzeZK;VT&o-=yQ%:U?5RT-2p4bIBJ~X2eg+d^IbLu|ig~!9Aqe,.P9@BIZ&Ar,U
  V?4DlQAz%3X9U%1TT&6~|8gl7Jx9Q@uIK$-GegvHE1F6fB5S1mE)mL>Mwe_QjQ):<jaWl)E1IBO&pvYUh*m,NbAs|cVn!oUo-
  ;G.alusBZkIXexruaYsrxGYL(HfZ2FdnF7jPY*u(Lh-vecbhFuu8jZ%DlHi^o|;|f&vaOW6a,_<*c~)Ct4g^hLFZe0DrCsRBM
  ya-z!mM:ch,T&3XjK9ngx;;GfK~Gc2whIZvf<iiBN(XJ4Ii(d5FPAdE@L7TITm4o@!K+-S2ltE5^@I1AvkeLM;Mn(DJElOLRY
  GpXE8Yw:2<+-MC8|JnW&YGv2:Vp|iU>-j?gMca;bCQdrvU.MXotkhvOVg2UD.YvQ$@VyoeGYRD_@-RC~~-2_pXXRWe:!pt9&G
  wBodQT5uK_4)<L%~ilb3rWj~6Ry8n*bPS:2SCX7XG+Kr,@qgQ7X57YEDk)OnqZ?vn(DLC$IU(8icF^JdMpNjC~|>J5Prh|1@v
  PU|_*X6z3I*;eKsyZt|4!@CN>?*cM5wD~2lRTtyp&:%DOlhZZN-@6,u:c_E_zX|ddZY.c7e<+0V~p1ez10ENwS_:PjTEJz(AO
  ?KIihUTK+L0&r|H@.(fq~zxM@4NE;&vqEFGOr@R?IZUeeUSZKJL9hi|PGQLd3yzOLx>64k!OsYw);lfq$=&=^p9(bw&(&v5!W
  t8:fw_7VN|n-@Dp>(jLf&@lDU5RT+s@BFVZ|hOVV1T),O1Jz)1CCn_Wn<(qgiy.AUK@:W+B2b.:wOcZ2=X<*j4jR5s3|oxB6e
  p8?DU+Li=9no2QjouBwS1D2eJx>b=ewOQ%BW_S%=*cOGMZ9rkRdVco)Tyqr9wxA,8T7E@u~|;?DwLDjrbB7X*eRRaRJ.o3B*8
  GBQ3Gendaw>EZ-GDFhB^GPncZ,N7L5XYXseI2XxD*DNCC|zucWZ~gFSEpB8y1u%NG-b1|kp~ha$yxczktz,Wn@yVwek?2_p~X
  1IH%C08F2!i@7Z|LHQ~aYjWV5G5b-+NiZZ=r0O1gbzS:h0|_xFL(,z~O41Qo~,sx~b7_aP(Apo=nw<g._EWHI8-2q,%J6wu9l
  KNd!~X!9fv1SS-i(w~<pMHQ,G*k*QS*F^d%VGdEMpX7m-CRDug)A::8!7jAQVt1|R>bi_:&6aerMbiLTN9j~j+4db!kzKXmEG
  :W+;I%vy9;vV0TE;k6Lu7t_8$LeCvXwF?>jmU_?nnbE0k0ZJz9iw1DWqHEbon&AlnD8tI>.o95vNbbRC3>D_4tOB2wx>z<epf
  eGbJd,lR39a+^8wq7pZ<6iNkfl_0%odc~mG|!QAgz.8uHs&x0A.H,X$K~B4((L5cK^VC&_(;;fqR6WylbcCr|eoUluo,Yo^Gn
  d<3?AHVz$~WaRDzS=q>!>m7fNlzd-~JEx8?o1lrLfrkGR+x;Ww!iXaed2eUc@_,=JF22*bQXQgmuJ6z@39?J,|b-C=VjIa^(r
  a.AMzl@nzL)*Pf@5JJ+Enf<%^MbWk7vHgVuN$s9IBC93Kw!h5hJ?4^f3A4EIxD|-^OMCIxGSMbQ8zZamso6UEJh6gFpzJ%675
  XfT,%8:f1si;3(Q(I_|0N:ZV~.fp)KSS-rO8;^E.HQLZIoOWy@ikx7pK8sFh>EqZ|<3gU)o?;MAbMbsQ_Dk^>f0ZK(0kSJ$yF
  F~U69%$in@r1D,X|b->hi$F)RF(Bhg<eTjJsx$^(6NWuR%qSgG7;fYEHn(JNfGf6CJ8tD0ln=U?(z+Oobp(E.(5$bu4uD*Y|J
  ?nkK.m%wJz?J+yyvm;&_QfmVKLJD$ttBo)%7z5ZTQ-R&mP?WhjY<PX5Bk9$F38w*v~;PKWkO?EKl2WFSV5NXcMc^).9M.*tpF
  VTBjw1.I6LUtN<01)^IwF7nZMXu:LGXw%_LWDWmcYwZ1yE&nC4($mH9&uyw_%;O!SiG3DyNjpaWzQ?21c.V3rQDhJ=2@dfsYL
  b!hp@E.|40,2c~=y<W)iWA4>Ga1Zx3far-m1JSs&c=_:T67;UT,ILsG?A<2d7LMz@s2fL9IjSM(%d,c@vddNjw4>)yO.0~vlY
  8C(N,26*L$k_S*b*TiCK=nstE_Qxxn=.r:x9F:Y%+&r)WKp>fjK1Xv2M&J%v@Nvt<>=BZGDX.db6*.idRnEYb$4OhiG2zMJ2z
  54zroYc<J+@Wn2c>Zo$JvzIaWju2|-@KV-kFwT@7s)?WpyKg5P?sA1@9Ela;sZZT6a&AYrjW:b|t^+TlTR$d6srCVgPG9Xm;5
  IYndU2FQ3mdPWfa9UnI2HI19yhC2dz@aVq5,NjujAG@f1tSAb>Bbxw4>~kJrc--,am=nA=!Bd9U&_%q=0P2U^YBTbO0,I,H9u
  bOR:D.j6sE)YKEZAMffMMCkBT%Jl0Sw?>MAT_NF4(,yIIR4Bizen^=n>8c$:kNeGBLCD9&X_K7rcEMkJ3UY=NU=.N~Z6FB0eM
  cBD_YnhH3Cj>Bs.CINDql9i|R,DZk=mTLJi4C6~gI$AGcXyyZpPl1v9Lv$7fZ.J8vJ~?RKF&,J)n.PU%ObXwvD%1,5R;8teA*
  7~FZJLRB&dU$q~Y6rWXFlbQ?w7.nE_R$Q&;Tr,iCE1$cvOR&-4_Q^wlxuadvJcs;mBidecM!Yr)3^O.QC0;db_K!?x3-xd(Z0
  ,2yj%tUPcGE4x9B|;RqS~&LKQqNjkuW)8h2^>J^pdop-L2JoY:Bnpmp>U5a:%A2vN5QhXEAX8y6Q=@Wa_51.T7M=y!!$tj)ZK
  vIk=5gDdG7GCW<q+BvN&Z@hr^_V(wiK.sz,z$K*RQ7@W0=J=,Uz)>aop_8p_>W>~tMlrZondIut~i_C:VX)(26K|wSCpE=%jK
  74rJ*CujUI^*-awsy?*?t!ZJW%ZOb<!uWy>|Y=aPUwO$~B2hjuw^eAlh8C6@(p7VHta.U*ww>fWtZ:PpbU>pT*M0mm%aT:aj2
  kX<NdA!az()?0Oh7t07koX*vPcLK+uISj30=?q:=6PgL3X1b,PYeW:.R$ayxA5n1xo<52W+8h-FCR,^9?bTCd$y!Kckx_C2vk
  $m7@_>oO%Bd!*i,r@|9qtT|Cy5k<3ZzG9rscUL.L*uciQ2*4SCLUgDvtok>7m|0vazeC,?PL9>p,0D*.e;ohgphKMl>rCGO)8
  A2^0aW7h>?MJ-k3R+,r9;Lj?3-AmXfoi.$^vum!$_v7h;r0geU:3mNATsE.h8+%KfU.j|z_IUi(g.aJ>)i?x.7QWw..:-A3w+
  !U>QGMQ6ir*MDQHf0UbtI6P_bfdc*EshjQLLEhB0rHB1>kyUi.ta~3wnv6=h$-|4L:5Hsn+4~q_t@XP^fd:SWMOPs<Hx1w*hS
  ^Mgj!yt<;s>k7&Yc:y05L*MpvLLiWm0:,j5Dk?L_?3Z8l2,~lBd*FCet@nin1>-vZ,-wCN>Q)aInggWry:z,i7fu:w;o!*y8l
  40-xC+q$M9-1zLpl!6s0OSPT4%Q>7x&hGHgHs^)Et)MqyHv51~z2|t(%*f.fe>Sd$%1yC0;(9M)G0e-9VtTZ2lz-DPaAKs3>2
  XJ2=h4kF5@*F)8-T(_t=yDLTYhZY*OibPoD%FL@Iev505~+^&R!55FxoTTSMc.PPzNgT>uCgc|E)ZZ4eTszWzI>cs3YYEIk%S
  ,|IDhpQJGOessjY&|iLkBwDDa07WTY9SLm^bwvz|LgLP5z4%NY:1&=p7k84bTf-(oo1+aUhRi$_nTd>oQ~=KXW^mKFQ;6t8YM
  lEyx<o0iB6qjXTk+U<7fYQ)x0inQRal?QoaG%mw$zXaBBe2u8wY.e|FF%xPQ.WIL9cE_Z11NQURl=wnbD(9uA+.kmsRA<pZa?
  FX-@bS?JUWDR*gG(fJPiB,(V_$eCQp98=Pu8A1|O7b~03P|Vc(<;MZ>)3C-_F7@hX:DnLN8s3kRJ%VhRi|$aVpocF(ZeD@)PH
  4faSpNRCO!a:Ag8>XszZgyukC?Q~^cj*6R)V8c.2cN7@d8sstQ1y::Z_@,q>b.|x,S2tEK;(mHR0MoC0YtrFoFNiG%ix1EL+Q
  o=1kA:n|HVlJq~;(ZB=w>z8$Eg~z|<3FOkCOW_s<vFeO2img!$d>p-2gn47ZhTAm%tQU^wYY>CcU%fo_;1v_Ve^ZEodHgM5Cc
  -P0utA.C*9(gosz-UWw|(&f+>9-jX-qdLqNNwmmM!-?y=*@L7a*kS9)tDJ:7(=SLHDQHUnhCcw%V5ND^lEMyxr4GBH1@(jZTm
  vkUOnqEQJP0d6pegNYok-t(nL%=%|$*rnK@?mkcZdY@%lbsA*!iVcQPTb:Cg8Rgu_Ne+nE0an$&Ti?E9eCX!W)!JH)Se4|:6J
  PrL0MWn<=5R_vaUeTW6n~CV@5P5,|anj)$:p=R:e*9nqrQxKEZaXv4D=S9Qgq*Sz-39LXx?f1@)r!TYmOlZ5S7<e:xkoy4Wc7
  iXax.t+:VHJXR6X@kFWd4W.g%h*1QoI=T@r+>fBD4;q.6-YKqE@O&zU%;vO&m>B^*N=1oh=)zg-1;A-S.EO!%B-C(GI>tkYNh
  !YW!:)5$smBkVy&=+6<pPUh4@!Vm$po8f.0KE>rxp:;bb^(~u^o))@<-G8qCmzg7DVSRPM9ehq+1_2cx)pw(v@|h1Ha9(p62D
  ^2$mX~AOdt.(j74QQ,NtKSC<:a;V+FIpr0mE2UAGDvr<wCm6MzBhiN9ShA!5Qf4d;2&hX%7xF<fX2ZZ1>:(G)B49!0OQC(MlI
  dgvDenu5Au2Du:NvKv^7vl5AG5rS%%QO*ZbC;WKo^D$%hux1PSD7YcoE8A)5Hl1Ya9~xcQa5SG%0p5GTKYxp9Syf4cmN<k8,=
  lQ>X<$DuaY>Z732$a@XD@Y.=PVD6pg^$d!=@V<O:Hx(Gef862pmP2z?U(-k*(OfDckG5=%v4Yff1;yYDAI5j0@_+~K|p0V*DS
  evog%,Z8_aV8qd2Uq(lM$XrMQ2h;T%lhVd!z1%p&|ap3BlSsCYbk)|KVQqM=sSnhCqlJtN.;BbaS)l+(<m7hP%f61Jy*ww5,^
  XOTjoHRl~4psq.SD@qy|ksE1S(7Pe8BLu).U~vGx@_g16+THchuaB9S;@4))nlh7aw_*Eq+Ge|p.Mw1k>kqGLrF%&&dn_4LAn
  Q<aMf1>=bNbiIat_$NF(v?@BbL_!x8hC$@kU00H.5p<~dmO*g*Up~=J,YFBE-%*WV8.=,Sr=1ag:-J!+anHZ3zdiBo0?oq26T
  <p@m9Cs3=yykui8V^ha_(?.6~YqWiMgv7.9W.P)lKOH^c$=g4N>>?*3K(ug2W&Wa>q?iFqHVe?6$9j*t.&jYj:4$^vvfFWlh0
  -FKZu&(QVy8HVrjDq1;r:uA<tg7c:m8C<KqT%BAcpcc1-vF0?tBzD7=:wBZaKj2+gIge_5qWD^|mOgTZ0vncq3AoO4K&rtkme
  bBz%eOW*uHeyNR&r!DuL+*nGlauK-QRFe2msTHbbUig&$6gLbiGauYFxH^ACZ4+fMK?$>yy,c+fS,7EauE&JsU%=~$iLOhDLF
  K1lw9noy+B(,;L;?rRL.aFVOkHC(l1MFq9!mI>7or_R>VXtuZx)x3zk2|!-Zv~=GLRvz6$6P|9%=-ZhOTw-$KVbr0BT3Pse%Y
  E($Rrd.f!QJ|.)RZwv)-9W@-g6M&%<iIfv@IcnWiF%ZeCu61TFg2mO5^g6TEE^_%ln:,Sa:b^yHm$k3WsPZgNZ(GASK&xOr<r
  cjz2^|@nX72@:(Qbo<iysQnxXwpSy.2t|,,1J|$wcXK(JTk9tj+.BnVP%P|L9^-~CC4i3P%+M;NE$uSa8d^l359.s.ULkiKVo
  9;tWDn&x<9Y>+MJ9LSDYf>_SMtL+_SuD?~vtmj+?Cu>=l9XNmu$m5:8mTJ%jm~2nGl*CGtT@>lP$o_71GrL$@~;9Z5:1mf.TV
  :>rhJY1Of)SNN-RoFX(Bt:i(.uH~TWngL=L<.AMedpwy;,k+gOgy:HP|W7^q)wZ*ng|~@POxElZRE.S~8TA|QPCe&Dh2%RN!x
  )oTr9E*W76V!X+oSzvv+j-Y^k9q,|Ls%BQ,z4)Y5PvN3qm(U:Tz-s3rO6IxB$T,trP_~M;6uHRHiTsEPG-gBb_A2Bs1HillSo
  13fXlq-J7f_8neQe=OXK&AzP?PThuoegI,8ZKn>@8I_^W=s-!2Y%gp$*MQc.^c4j?@TUJiPrxX**&,~Zz;UgS;R6MmkS8=ko$
  7wXH;7f+!-2BJUl3gJGz~8aOWnXW>)zi;_%:Ky0-(p0@Jj,&T9swxzLM9e%RMuX4|*^WYEbvhBn:OhjhvV.O&bXJPr->3.kp0
  gqi^LOncvssG%z2%(vUXToE<J>P,..fce<kpjokBWrKkk.H1^CdP3J>,:ld$UUX>%*EY^uG>>SiQL$!_FHYcQ5kAJ?YGlbyu(
  awM+tc>>FW5sghC!uAM>cj8y%W9CLgOt<@B+nL7;oJe1lz8kZSqD7H8qIKt41uD9lLhbDAhTlsJM!Ikjg6J$6%ow3^0<h2jVC
  Au-0n+iIBoVNvQZkDCGVX&|d3|B~H8gAO@zPsK:*wwM>@,,Imn>z2GX8i~VTGb|o>~Hka>B2:H(IeT_oGU72v~oCH>2%U$@0Z
  XRLZgw7ew5Cg7hSrYvEJEe.hQP<<(0rUDA.iC.G2-F=vBtx!QK24=*ILl)mhghmebr-.C$?ZR>$XMcaH|dCU?gh0bmDqo(=e^
  ,iDV0x4u0@nc-,bx.ME&RtbjT5eMkEsU)UP@5<-n*JZyl*w2uy;:OTT+M?^L9ttZlqjl_c3=gmb7h*LMULPX%Y$Gj^sVjo85Y
  X900j0rVD=d<qT3eHPUdKI?2Z^e1?f1on1e_=^wz9K%<5PJkJpm58Fv1sQV!E-Z$SC)qi%M-s,:C,T34Lp!6k4d+|oS*+Jvyi
  46-0ja5Ozlq1%hs%.b9gNmz_uynYEV&%XRNQn?wUazo,nn5YRkCnnZ|NAtXylO9.N?W$AAnN2Jr4M?@5.u_V=EzF7ib>(1^w2
  U1IUSflX:J8SK(tCFv2ugafB&D>-P5fibw3?m-q9+giEIp@E1g_x(4c)0G?@cmFxy1=^dX$ra_jejSF(x4bMv;cJ1~j(zV:_J
  T:_&HJ-etVXHa+0u_dvwHjc$yZy+fK9sGnM(4bz2fa:~_E+ywZOOn%;?2_*)qRTz^tom7tnL_^,+zu1MjWE=z^X!X.bS!y7wX
  !Gen>j)4QrggQL%5^7xj$)cTq1?mr6YpB*qqJQlq_%6p:MbdXrIzq((APM^k~MdMA6v-ftzzVoRHGFvA*v&^j&wzAiinkRc|w
  *97&7I0oGWO1NH+b2W+3$s_ZC$gU9,FB96>Zr@XT7PR^h7IT?DYTm20)k.gY,c%BwwMTKA<Xc?gS^58H~dpU^iD3YuS58Iz?v
  Dj@.ne%~tvRsQ*h.!4y%gTagKPc?6ay>ad,%2-R%&r!<o:?,?iGKKri7?&=r6Ne^yJt;_uICvt$rUXXAUto5(F$PhKi7rtA!M
  x^qZFzHsPY+Rsqgkb(L3YR<_h!-r=T8&qkgx*Ttkrj59Ks|WKg|mvy1Yn_x+9JvK|m|V$sKw4vIja%ma~K,:aV:Cj(@u_Qs<,
  SkzAn&B:K!^%nxhYjn:akcC$Gn+obG<7^r_46ZxzbM(kc=zlI<<JacL%;<<Y?-PI4*P;SbxKQv,v3g066pAi,RKU1%:j2H~Nf
  oAMq76t!m$Hy9%0Vd$n1!49V_Cg|w5?7ApeaoJyGpwwadFdkbSZwbi6q5vO=xR)c3muTuiNyL4L3v80EXnow9%<5plqcr1dk<
  N?C-,>QrcoWC4YAnn:ki&x:pAWa_AFk%-cwhAN:YHugjpj9y2AIr;VV?3TdByv_,Y5<p=H3;e115Pa~I1jR8S-RGg|hb+XHXV
  95QY+VM+E|@@BtY7p2m;-IL@5xmU&~4OP+g|s==h6_3-x*pON!Fg@ka>(,b;mC^~%vOitsYkvTK!6gyH2dKLy0x-b|Gw:xXks
  =g?r+%Qs>?_PeV~+rnf~BBKXR?5n(^KUa0(m|&^5fq.zjDeAHwkX4hi1I1as|v>=i4daJ15r4XV4b^1=<G1!Mr+9BLfE0s|I=
  qgRbOlq^ReD^dd=LqCoM$O2tVTOto.c0!ziU..GLK7j)~7|Wo?uh3|DeTRveRbmHA!;^yo>RnidxyEurZxVe.GfRv0:s+3C:9
  y~F348CQNbvqU4FCxZn01ADlCBbOeL>69PtePgT^x,vPe9WJc1y;Z,B8aA4Vn.84CFg.WJQ6i&MYA,f-ZT!k62)TjtIj8JT_M
  A@ZtA8OX>;8Y-BNk.OR$Px*LkqZ3uc0Reo3y,XcOl1Je5@q);~OV!QCrMUv.adDg!geLU3B,xvr<&H&TD+Y&YILKx76C|$9M7
  TWftEKMWt0iMdq8%W,k<re)q)(M>S==Rz:-3a(;gAGhxFn$ZEWp|^V?y??~OSp)(EF6lZIS&&OwmO1SqJ6=6e=fnDXgP=43z^
  v-x4-)qC:=.J17QHDSR&RL@4k+%?f_A?v47--dB$P;o:&hCD96%1:9oK.vFAhD&ev+G@7Rq!Ig-?oI!<6dmsOP0(7Hhd0LhMX
  -C@Y_!_%2(BD;_pFQdiJn62V2q6Q+txMJEH>yTTjZ?6@7,Lsnt.@DRu;(n+SR5Mf8C_iXO>xa:pDoMq@ccWJY.(s9p%T)h*R>
  _?Lu3fo?.!b<m8|:~Xac_WJ4S)fCOnABQZd8*09>$SFpzysT4JWt.ywOU;s*)BJ>Rkl%5!u)^8-TL>S=K%c>:X,kFxkW;m$sT
  pcL!K:z-A((7k?$3+7PC2$5NtS@B%P~.*uh;zPH0<>rlLB>F-n@+gBOCyOdQ@bH>jGJZxcmDSkv&i4T_ge~I@rl_L5x33,v%7
  <:|XstOEE!$yf>wkguHU7~-)(7)3a^,;+CTm=C&g!lyL0!noW&H<FX9ufN%l,;4O%F167*a-A71G7,H%gsFl3Z*hYee|v,nYK
  2YYE*JUb1$Rf3l.,VNAg!LL)Sw?Tg4uXCtz@|tM4tI&@-q:HZ@Zzk1p3Y$9a8L?NzpI$ZfT@kzT5y+5=N^Fusl3$6f)0p>FZJ
  _.W1cj|%d%T?Y!3J1Ri(s!.VH+7nVtO-b.?1a)=74fcLl1k!fK*BxP4jzLMfgmmuyA)R(BdSa&E!dcsgrmP27*U1X)hzmGOV3
  xmWzHnn_wp>bG_gCKA=;+o2XOnQ6UtJZ-L<Al*X.+cOhbdx&SW585omCLQqmCWk&2v0?mi%U!6oa%Cis>QrJd8C65lOg!uh.=
  UqQiM+wba&=S80xkEqm&P^eFtUs)_(G,O<^,)K6!f&2_WKeXe+o?$xF3%nAW@yI-z?^2UU$!q@zX2mRVhcMy!9$jdsUeOy;jH
  EAy+.AZBGe~.uc-w-X-ig2U(1d2_*V7@)QOu~*RGq0z%XOWL8DSZn.r;guihTJpxIT!<&i%^&eU:k,R.owNIFa_K8W|Cfoafx
  -Dh,VwCLyWKt*Of,HBQOZkv44fyb)q!VME-+F0SNCB+PoQ6bvdZT2mIE8^(MLECVqh&3+LxvlUAa(JI0T$fc=zY^?5D0;D3+f
  Rk<Ygnr?a!i~54F_*TNoruG7)-M2R*.J^~e%%_5mtpqc@Tk3-5b&(&j,CLL0a-8s-67U%~P)9PI~<r75*g:=8,V%.N,v|C=AA
  hwsR_aT+WRQGJ5$0Sz8HABdF0_X^$m~ti(:_PJIa9^)PV+rIvqpVy0~;4^wooD4aYsMO,1F9gXI=98Hd%x3z1.Cr>Cc.<Mun5
  k5Q@8bfVo+tirhy%1ucJ+@!aWmgQzSU;>GBL~NnL*%BqviO-xl.Rt7j(zbQOdsDv?yRv.Zu+ySfGHU_XzS4X*VG6mHI?W0FCT
  K)N~_:+@;ELQ2V:t5HfeyiTR**RB!)!IBF*7bmDz8,xpv)^zbo)&CWnw>k5o86wj4$kegeFGO3RTc%?f<=A^k.~T*PQ(dz)iN
  |-thd-8H8K,(bl$$*<o;:a-HE$5IYTtRv6;QZqr?*Va)21V!Fy6LnbD;DK&X_yrKD_v@QTrkLs$NJK_@GQdTuR:I(B*K;Q+$,
  N,y%!T85w,eM&49D0b)-XwgfOLE<xd|~~WyC|YrF&7^Unoi|r3PegrdM)p8!L@KR,tRUnbY2Z*<efm^Bi%Zr@-&Q0SyV6ujAw
  y;P.dD2rD7TP|6+EJrqhh>mnDB2=xBWt;fiR5i1mA4a@0IMozti|FTqmU(s.=04N6stP~e)XjO3r|)esdVo7_uVtW3q7nVB)R
  MIXhYoj=fUkrQSyL0hw3:kE&bpz^7%bPEy~!X56gPJjOBAe@o6D$x16)mvAHRNFzB1:d*U5d6|:cx&nVvQ4ahZfV4Y3lw=hsy
  f3gH.:Cu)Jx$hNZ%iI7Vk0ye14W(&RG3~7vaFW?o,u:>S,A-^j;FB%LJJG2H$RxJM_up6h1*60~ICbt=4Ujp6&RNyisGA1R?|
  ga9P0n7YT.mOQJSPkKEDt*&dq!Ds(6GSy=_sI+,n8&zY1rxpm&2p4,Tn.xm_K,RGY%;I7IpCI;$f9hn~i|J_g!9L&q9|:T6R$
  8WcwT+x?*u><f.jze<SZIdPHb%$6@RgMLu|xmL|<BkbAv2ZO9DgYVk28+,~-H!-vmF_oNUNj2-)-w+ld8R.Kik+Ch4PoQ%Oaz
  ju8t6J,%V?)=cO3oAXuUyMuvcOlt@*Ld!wmz~ev^G^q2>~Z^39bq$HQo-++0j>wi:BsS+!s-Oo&_e1N<Gv_KXs7euc8kN^N8V
  Ipc0T,k*xE~ULbRE6OuDlVvh5&z;ts<~&s!GkXoMvbZVm.E7;Zw6H3;>9K|Uw-:6n8g2t3EWXl5u,l;djH|nqyFPgeL<Ve0qE
  J1LbLv;:yIGU?7AI+oCwAOF*|^,2SD0=kGfl(;UWUjDN:MrIt6sVcgugf*K^VRk>jxec<975z40?^2yT+d,4a&fX.=1JS3V-=
  x-(j*9M|gNcj96QdvgchIxbmw(BNd>Vq3c6g6J6cch=eU%.ad2m~U$>72js-Bk&|-ZY=:lMTo0+fJ^%0_sLVK%ux<ID-)l6Qp
  mbACECJsmqLNYU~o7)~.a&o1vQ:2m:LKUA27tE_$x8!_sn6&CytEZagR:<IUD-hwF&g_FQE6C:u(t0,,,-P~3eUXy%fRObp|t
  LR&U!:!6^!Rndj2MQ0QX:p4^w~_)4qO?Whc^<EAR1yDkI_j$WK0DOW9*Rd01|TQQAH(OKCG),fg|Rtr1FezC_k._f)OTp8LZG
  sjidSbGmPg0&wsO?^QjEIPQ~Cu6I!yI@r-Bjv~2;~6eFl~8Ljqv:v=opLee56mC%M%ioUIwfBN97kkc)gpW*^MmY.Sjgs&to=
  gOiny+z0:9Vtg6ZGDjwRi9dpoV$Ds_V51qRj2&1YqH^Qv6hej.sEmrMzRP)M*i&cF2-*mR3WXL(fhjBj~s>2V*^On(X@=;sj9
  ?So.oi99eBK*CRd)@fSFIPN>~Q~du=E^ci>~OmVQm6<lF*|~73j6$Dg9ZHw!BMB~Yl&nLYUavGW.;b4A+jC*aE~dOIZWUpdIi
  u,rg)e4)9Uzj@l4NYbfDWjD<cIWimz6wurFCYwbTz9x4P_CvASFk;z_RaN5C(6dL_oE(,&;G(6JyNb0@EvgT,UkKh-D^i=3|d
  |YP4:pBFWDW=i)R>(&810mz)>$7v$XS2-.p+42NHU=<?p0doxM)gzMbZs%&qNr2:Vga%v7H4GUqL0JMAw-b.Xw$eJXk=t&6lR
  RS7U2HK^-eQG<NE>pccw1cFL-ow@jXoval>_.mb$os)uomRq!3=uZ$D60Yrg&<t5UD(OvV+jaAK<IX&3|B,*+~;QsS~3hU;VH
  Jf;a4a;+-xSiOA^S.f(L3WpwHJfF4_5U*Xa8i6DVjjZ)~gJvmIGYW0G-K1_rUFdbPl;.QTKVDn&7g;:ys_i6<Jwb6ZCiG3&~*
  _kM,+..6|5LczrO%(w~xXP~^n<,0Oh=hbfr(L?|&lH$iSvLTLKk>gCbyH7ejjZkm-T+.:mclB+%t?,,DKw5++1Wnqs<ml(1%@
  8t=MZuVypr&**EgKR+4HoHmPjaMD(9Aua?!cy?-K,_&?-+bFO^B.YaYP5|~tK<_.fa2:I8Ovh|>-KiTSb!|d!:?6pC4txOPxk
  xkek=Ac5$H%m3Op:5WMB@?_cuerj_OZ^R&S)okX%$))72H(<YPjWbhwt?@m^!32=lEOOswkpa@fGXIFe?@eV^<<B<S%jlU;-7
  B86YYy&2|Wk:65ziA?T9xOF_?|P&68ax(kc4;m7$T9mnE;K;&qMUlD*poj<-W?OMVuQmM;x7W+)l?=.?1|ts=M9nUMHZ!88,:
  %gjE6LgK=x+q-0eh:1n:I;Ss|9!*?brmKr05;GG3k46a6aOeR*e4f;_neBjd,@Xvrr.n@i$x(S2E4XR|>Sr80_dA%~Qw?2^8_
  9=;_moOz+=a-HUFf3C<bCM(*MW)a4nABKr3F>%*5mPA+D=:DGB*_s-+c)b*V0b_r(Je)ebph2ig|yi<(@tIPIZ(8+v!>+E_*1
  UY1PxvDiqrCsX@Cx4Rv2|72B+fycUR:B,ElO1:9POgij6^ZW!XQs+t97qcL>LR&3hq0Z<7ZE,jm$(-PV^ed7VHh;G)i96RRsw
  8-x$EcM5Q>40Ix1dY$mK1V%Y.$~PB-k)v_!Q|tFJ)L-qrk-*Sov1Ac==;o>p_8AIC<iZT$CH7<|^v_naml6GwJC)q$:rbuFZT
  s~sq<4&l$pn2XH-.|,:3U-QeW;^J+8@^z:)=qK=.1,1KNWa@,+~;?>V6SP+dC42I5@2Sw!>*3i-i:C5C?jNE=F(J0g1CS&jJy
  Sv@K=H-M9CoQ8|Y;CWC%?st4!.|V_6YG4A1.En5H@+(m=J6izYT$jLn:$U,xL.1WFIM=>tD@KnG>KQ.9):T~)KY%bqLzy6AxW
  tn.&8F3Os5j%)LPj(adw9s%7n->Y0L)rH5rlx~cq-d^HxRO;4qB1^ROiQ?HVz9Tp;~$:^~m|exwKV>u,>WOIFYL:A:INaqj7h
  QM*LEUE0rUNbpNd:dz(lZn@Humc!G~-axJWd:u3jr3|B7!:|U.lJ(z7U()z.h5hc3X7uF9V%6,|1nPgXa-pFrzjp~nDdI|?43
  z$LD$MIHooA*KGZFAQFxNBn:C&~Zts9NUQ(OZw0s.&$4:F$D68CLB2pnZ:4+j1y<z%bIqi_7UbJG_Dh=D6m>>QkN<ld6T+N~A
  h*Tu3C!GBFZSHgel%Yb?A%Ju_2VrXbBxVU?(3$(NTw%jF8MnNlDRl%w.(e6wq?G=1!7m;v4Oz:JtpNuyZXe&z)px(9^H?&=M0
  SH^o6U3X@tf=sdbgoqSvioODcDOud,qWijHO&%NZTXfc>8U^YVWq^BQr;u0!ioqhXwm>TUT_R9YEk3DdJQ6>u%=WpuF?@+ut*
  :_U$G$vdQS*4eWuepjI:hENb);km-M$YE%wd2<3pNX=VQ7D~y3|(gXGMK3(sozvT~VCEJFkjS,?~kE@4Hvv;s~PbaQTSM9SqE
  lCjc=6W-,bjTH~,=3X~%U:ns-HM~|Rcui6wnXnt&4U7p!aFfVn5;ePLP_yqhWH~e(d%e(b0,$hhy3d:AMOHta2OJ0SvfT3>xg
  ),7^PbZhE@!SKi:1V4obbX3D?T=%m.@x56d!KcqdjJYR&+bId$|vAu:I*2Tfdjob4sq^?7whR17*tQ=...=PYuPKa*?j+HLjK
  CC^%itf6h|8QRI%D3he|X^3Bp;~@p,Rv<0zB7%LgX!)e.f6woQv~fyjbr>?Fl.~LDCfDP8A*&7$n>$s8WVHYQ*$0Awhm,?N4C
  J8P@o@Ycel~SHm$lk!A>?=w?D>spD2g|Q7Xd<EtU$H|ob!BkC~LX.lpWI)4+40UgK&fsQsC;dPD?mB,$9odP3q(A);C^HZ|PO
  k:EJ+5S390:-J?=5+R^ymn+A;AJkpW*OR?,wx+2i!54h7g7tp!6dMT>cJ70N2oX&=<dx5:@Ff)t35,Y:~w1_:qb*:sV>fQZ+8
  UB!7jnMk1io%XhWt2R?k1|c5&Z9r6,;MAL3(+)|SHQFvH<*kA~_zI)i6g0cqtva*j!>9f&??(ptE.w(bJ@RiE9wK~c*q<DuPv
  wY@V776*L-RyuwW&%_G+TFUWmEQ<_!P86x@ZlwWmuTqlDD;t6Q!CLgj6R>tzS*ASs<I9R:i3c3Z77fwtD4FIwZw*9!r&4c6T?
  ,W;Ee^8<&h8oqnVxE|xY73WEup=p6R^NRvcta(.01XKGMXKB:z>YC+Mx4:+xonKgIBR)7>(^YrUO9pqAmGent8)%on%w(h4ll
  syYTB98Phy?O$-FDg+QE)jEz?-,AejxHXya*1mXIkoWC1s_,T;IG&A-uiX0Tez1-zPc-a.9_+Js~u,)Lltz:Xs@,4XdM+rEZ3
  4(NQktV&H!QecKI6hox$?V8,RzGR^UEh=8*CVM=%vqwG)GLoT*74BxoXc|NW074ar><9B<Hpp7;MU%8Y-=I<x>-E3hmy@8RAZ
  mXL24|d|x^25$qyN8K9ih3=H~nfy4MN6:?|Y^I)j.a<fM&EA*O1Anhywo2y&0=|>YV7aSZqpiQnXyx>WhI*DPb7Y$nz12CodA
  g-a<toS,I!W^$_enl,uFrE^(Lk>5rc1Yik$*gH:a%--^ctaAe;9~~G>X+ltg!h5N<ahv8%zTHqS(Qow^6;OY-a*fsbdQ8ykHJ
  YJeN|xc8,;yFPR-2U??>N%gb@&~<k2mf:Efb%>?;eHsR_~-3NJrG1mdqeTVF5bl*JpQK>z9Zj(Jo~(T=THO4*=Vp&4HL4fpme
  jLK:4!j~j%PviT9:;Qv$<VXaQ>c$PN<S5XI+p>,)+qNL0!vNa<cn|g5o7&LodybP)$OucxX@2-T2!~Q9W5>;o*o|*s)yPIm!<
  z&:*j4;Ms)=4qKNR^I+$c86V_^b*CuY5:JV_W_H1hwiIK9YhldbZOBOU6(VY>SZ9e@2|:1FQZRgeIj7FV.^7)V.:|~xzNxzjM
  6@0Lb~Ckd&9m*.N|LXM;p1xsA?0m3aF^$!!>|Zz!|:t!:tb-08QIqFeBqWjeD-<%NYxl61jFrYf^.JeibFU.ghCQlb%T$23X^
  NENivtn+B=$7)idpah(SDR8?$I@U6pWewU$=tc@_^@J1w!^p5pBgtHc6MPv~fMD*a%Q,pS7)3mwan:tU?HMfpyq5@Vpmozo(A
  pbh?~SXDw|e=n+$M|vcW3P*^?4e(uQ3Y@+JMTg%pIyq|Z=+b*S7^Ez4e_G$+PuK$WAw!~Y5w5hN$Am<V-(-zd~V~Os!o=1If^
  r>p(&zllrGk,55m3KRs3g+HP8,V~Zjna$(%<4g3aUwgaB>u6C^S,+ay&Hl!OpPxk0Ek)6C>ByVVw|!v6,F2=1TZgA<oZtkXD0
  XtBaoLHk.:-0o:G;7F:Pk(sW@Oog,l<_;JYeJXZ|pc,18QR;eJjpC:LQUY>CKQ9+IU?QF*TUanzj9F;X<bvwSDSD11ux4T5gc
  a4!e|-=CpwzG(s4nLZt~4ES.D$~1le5Y2F4;1sU3J~%^W(Ml6IdsgTPlCYU$Zq5;T=rEQUGI.hA90HODjs$-iS7^0d2:Y7C)m
  qOx5e&EYn;)gEdGa~Z3h9Gc1pmNRPsz>6xi7&bPd|_$VD4v8ZgLL?Achq7>._t;Z>H0Y^l9liu|YQVDk01aY^ODc=2.b)o.aV
  OfWO)QZq+UO&9i@$$4q29hdSe~YX3+Lecs76omvzhf*UwzrW8%-<,zrFc.(%IIz._pWgBq~-fG9Tn8K@%WzKCq:Eb>m^tJi,d
  7?Z6n0OH)D0HL,$YzAvi6eZVg~E:DlA+pUZvT?!N:ov:;WN$IbyOg~DaDnP)l!,r%:$tU-yAm|zvp?6Cn(^KF^*T0QTBVMc._
  CnkVj7J5:Nt@4fM0A;8hNsU!Ef@cToX9TuM59|4@Abw7|qhFLF(eeiHRo,mJ$?U48cI;ubn)T*w_d_@=bL0?=zfLYR>CKtF)6
  5%-aOPOi|HFcz<uVdD+?nD@?iwwQ6b)C=lu4*O,3m<e9>owGSTN6D:$2P9tqAbd)Gc^m3_~;e8DSx,Lss^i^h6iAO$ol6..tD
  Nyj6Vp6|uS5eL51M8xU,zX,<i6-xGOC=Pz?~sx^I,DhA.&Dmv.qfqonq8JbI7u6i>L:Z=yLE4(;I75WB)-N9TV6<|o+^2WG%Q
  %wgd=xPUossjTvFjCVQ-sNxAnbj@eeNJKlS0nWzQY;dzIEk!@PHUv!@&NGo7=|?E2g0_hzh&2HxXg+oGkQov0ZKxd;ayo!|Z_
  SBO>N&VV0mUtf1VK&!vc6+fJe|_8*YIDJOoW4JQ36p(L=SRGEgts0h)l;&$;S8jE^.$waG(Q1|y4.X_T@h)SvaKJIu*,h|hA0
  OUFKw2z.^|r(p)eC-RgRQ&0KY!*Dh7rnzXJb,cP.6bE3QN8bb7*$?G^X.,r2wY_gxV3^Br&f)_AvqB8x-Z9UJj;a_+D+3Y+5u
  kZ2Ly@nFR5!mfK64,m)iS<oB>3!)QlmYGTWxC4)lT4S@D2(*wGty|9Pr3FNZ*A.VbjO-Sm?a,6Xw8Q2,WE:k19CnMJ!>zDT!w
  >0!B8DG|C;@abe7N3U+*I~cU^bLm0OGG_OjTkRRkyiQ-<|QNJFW@0coXXRQhZ:MwJpL;=8VkV1q3yXc<T$Nx|*=y@<m_lTYRf
  F)phM~;SgJ.$fT+wRxw*vVZa-VZ0sLH8lQIl2i=<ey8|&|oiYLzg&$;DO(5_3SAJ6LL+SJLV8s_a5f5BBfYI.g~_M1Ns6@,u?
  KO^YO?YhHICv$nVj4vIKE2F)k)E>EM8rlQfCc$IoPw8L_7p4zqilsW2jf;osAUs8A+%g;r>zPUb+:YdQ?<OLpqj8$I3Gbnkjm
  w6nk!~zGk-nDWT(GVxgBHegl(H)JgR:18.PDaOr$mv^4hiI@OD,NzFG^0(X;g@8tRbNEo;E)3Y$q:eVHl*3X=xrxxL?9s.Vrm
  (v3:F;z5$cWn6Tx1F3FhD8T$.y%T!==7)!.l9q3+Q%7;2=fVeEsG4rYv)Op=+p8*qQso(X*-gO|Hr26g7;e@mc&watVJq2R5E
  ~|UmqRg:GdGW8E$6VW>eRtxTwyaqu4LeSdT:*~I9gr^6djnF=Om|GZar.q_-WSzpaYPo.TbS=0e$(j@|nu_UI5R&C)Kjk~N=<
  +v5(AE9t+yigI@hB@4?xr4@^<Bf1rms.-$!<t<jR.j(ckq-v,z06$d|6<$,fk^bS3zb)NosKD<sOHRj:Z+lu(I:QS|8z$eea&
  w??A6j<CU>L?><8Nz@<!=B4IN7)wCxz:3^JE*NGCfZ%rkM?0S~fj(,eBMg)S?S;V!LBILW8z5cziR9&4k(~)$pH)0&VIdv+_U
  1XE3hb!xJ?-7;B@MJe|5x!y%-$M;3C4hp7f7hW3@ZkKd,rOiSn6,rERHUKO~gM<uY(SS1n%g<kP9q?gll<ge_wEcBBn,dcfM+
  ?3UmzUn4cL4qPZM;%bfr*EbA0vvc-OuB2eC=AmhBG<7.sUTIap<Y.H3tm|Zn>Z;(>5?cztz>$PzQy%)N9&V?aq$@>U*~PC7@D
  M1C5_l)lsJlPoHvX$UH@6TpS3$j(4%M8u?NsBl14|LMrFH9b_(A!I2b@XZhlh|a=s2D.~wp=MXh*2P0E(,>cZuWW8(|@4hhc.
  PSG0Q$)XfKhC+x|q5leJ19K&!%ChVh)8hvYHe0q5eMMmLH_js=OwOqJK@pJ(|?PbYx|3!=tRYt-378Lfy-yJs5$qAV;pAbwIt
  )1wed*q32kGvT>=)kBO2TAs21!T$sBk1I&g%(UWo4DdiWtCZoztLLlsx^>,Qkss5IufZLtrc^2avE,TA*c^7gJ$)lF0Dk;*.W
  Igk0(_!1WMxVDRP;e<^B;6,lK,JzY$IO=CM(!c-6kr7PhM^SuID!e:ca:!dV926(*hJ%_&AWLN$E<!d*kD%>Yg3rZLBhxvJ(x
  ?~8r?dyDivEsVL|jWWc:l(9tS73ZB_KHbHCB>(+(6@$9_jp5hHdMGjW*tSCE*VXYCsvw,3JIwzM&qtlAdV1<n9B_9$,q6L%rZ
  t,7)og7ldN!rBLiTa)%!jvYJ=m!I^eBnY*=:nc^Xmr0<p,bW;?!I,=,-bVp+o>?h?flUktOJ=Muh)KRvDl%YX;L1|(k9B)zUu
  GdodbEv3-,^iTk*N:vE&Lfm?eP>.L5b@nyQ3Wws,=TGzM,D0A?kVT,.&_r~9me-nkpfy>90noiTD6PG^uMt$VVe5t%uwfVzD0
  5%=pcj4fdP(r)yNpRN)=GuHJYjp<ItL:mfc?NC=czD-d5j,rN<o)xjHM48(y$^cCIL=KmRXUiT-6P4*o&FAvd>N,$hcjSj.x%
  ?6>uykJyZiy:3@w6=<Qg)U%vt.%aogsy-hcP0I>T=JlJaQ>TtM=,:B_ep37~=U16fUWQn&=$*0xzA=s4uI33:<H_tuN,:pzsT
  JBJsPkam2h0CW@caqo+7XHIW7XNrdLy+^6H@%y.j5@6mj6iw;.t7^6fJf^*=R:a=PnA2?(?>*K:Nf3<iTyY:@N%D&5=lDi:mf
  Zk.v9x.^Yfd>Auh6m;owD|s.iz2qUuAl!a:krWgQ+xETIG(Xrd&.GW.@lM^8QAOLQ3u0hFbzt-=S~vO2(?b4nu,Fs%(iMAn*:
  D!ta1FC8Q13GX|jT0h$(iLX5)sXQ-OL$T=T35rNSnU|!h0~$JvoUFWuWRlr6m0Cw*L-G$fEOR%*P9@J@V3T7lR&?$..PHunbq
  Asb?n_RIfkn*qAP0%DFi7R)UvT1~31;UBgOTk7xpst8~-C0hmrr(M2Vw0d;1;dfNg^yd4f*KaZ&H_^rXu2H6%^z00u5|wR;9n
  _-=2Vd4PlHRDkPmgaX@j4fYQ$dQ8jFe5sF|(UNZkAAN,x>&=EFZuP*yJWLJu7|5k$@4O2a^OMagBw+9L=TK|r^X.=HG,9P?Qj
  aEBUa>E49We7cyOh$*?mhiC42SNMl3@qfs83Tn*o<N,vY<Z^Eug$4tz@A0g-6gO;*Ma0?kSH@Q42u7-C(&30QkMv(kU,4!j:K
  51+HGr|VCM*!6B:O!p2q^TEeW9MGNmpKHb:4BOVnN^R%YC?Iu%Usi;CcyW;elho4NStdCiS|wx||K:uN.!&k6Tse-X,CRiGQ~
  ;$48I)ahIuXH^6gRw*vpz23>%+EqXDlTgU(cKTILpk1oT.scX1>.jtI?cd<S<o~(IDpR8lD|Xe(dZA&IV;k6f+3RUe%Yk;8-S
  eUG*9Qm2VEFeIGIv7,;aE3?a8(Mx~v^&_zadyXLiPj4p6=WU>STK,B4.j>Pg<C956R(&*6(7$XRG@S,Z6wG:)11Biic.L.+CT
  iWM:L1(DF:^QHt(xcd!xDYr!Cr*bIbj@Yp:RRAvVk8t^E*hKZ0ruR7kq~.Ohqy,BEe+xQd5Denf>ngOemPm~@65AA:w:)OY|v
  7mOXM|L5ks6QH(!um~EgmrR:;^Fm7+5*L*bn2AoP|xM^:1m(Pt*>%;M7+59tP60AYm!@ea)G2Wc%n6hh6CHqUaE2Ijx>)<MD1
  !)+6@1lsdLqXhrUl3gp3I?8ve_4hl=1P5mhaxaDaf<8uB99Bi6Sto(<i4S&lz&PdTx1Rzp5?MG@R(?nw=6I!<Lbwx@(u-T-?T
  hRzm0V1Hu:f><g(lg@Z-8@8d~ecl.|6Moy:9Y120%$&epJM@!4o,?ACqNOlGoNC|qKI=-.caFM%gKVHDE5YV^6epCk_rExOQJ
  &NE%aFI4).WgCnl2qo:I$&zUaC;(JQ-|UwGi9=KX>zOCqJgwZyoZO~jn6n|^WXUqb&:4ETgyLe=msWEgg7HeQj:v+O>v2Pp)d
  ,(=5ao1v-VOM:ST2FE=Do9SAmOUKs=V2!Tn;YYx,emO4YGb&Cip?taVwdt^^da3d=hwoj.FN,iCOMOgTJ%zP*%W|Jc-~pMv*S
  zAVjb7?DnEIZZW>zTrQKYIf)58RYl&cTXb,L3!hbaC%o)gX:Co0uteDV|aof|0OEeLr5Jgd<JLHD_+X?JNV<HC35WV:YXQ5hI
  *ub45bQ5nd*UR49GWHBptZC9BsQ9$7:GLQmw0p1L7GDMVn),4?v>=P.HhOs?<%X6FXklGh(?car<>GK=3u6Q!n-_gBaB(sg2R
  Fsx)Z(SD4T8Ia.05ysBo0olu+yUTS~?5Py0ELi,gZNyeBDd6-yZ@_LlH;h%Zfu;*U2_XP2dHqO7o6F=a_@=A95%Hk+ye^X^nY
  b%-$s@yk;1FY4PNOueFnp04?7<~w!)PNq.RvXVy9SB(y_KD2R~h3?q.3n2ivR3bnPR,V%4IIrXiY^^jv~Sq)h.:?Nf+^Zd1&7
  $7BWtJc:FB%EgG_AZPZwS!psR&0<I,l$eQpF)3yD>6~7t*Pic?S1fb>QJDfy$UaE>4IA==@6lo!rC4.$Ugn~0.b^%o*~Z;4:K
  TY!y-aWBjTb0E-x*K)a*,Mid_bX&PudZjjI)@P*ijoOOmS&K0@nJ0Dz!ql7qNZQ=QN6xD6k,0nHw+;5AGT3xgsMWZY~;|APgb
  -EbC65Vsv6+Q0|W;:60QQir50O(CaHHa%dH7|W)WR_%U)7e|;PY>AG5JPS:SF(;)6IlaJb3j23*po>RWk:@@cKcQ0!&c?bjGR
  R5-OoFA@qC>l~eD?%+op:%4jh.4PBZBh6K)=Eo%uu*nfwR.^>lFBk(p&z!44.d4Cz7h6jkPxk@=NMAP7%~EiiR%CgpMU;)wQv
  nl.m^:~lm~)Qhq,!YAb9?(p(F:w@tlN:(u|69^p@7u?%rp|oS).Lyl6>J.LU_g:^T.0ZRPnZwC@L&QMRT*wT@>Z^%yMqj%&LK
  5<B9Bg!lujHF(*~c~g,F(|hqi;&aMeGebxu;ligjDVakc^bMZNq(MO%_ZL9o$ViA1L?Tdps)Gbf8-19^PaAYcWcNwTqZkA!|S
  lRw?b-JiMGQ0>XgbcAtV%A;oS@>wr3s:Hact>86*MV7m82lTR1GQRm:RBs%.MqXCG9x2:7>8~M&d7L7FSVZ-h7w2D(2$8l,pv
  lsq*2nf8uBaRAX)z9zyNDmMOs2E(8sQABG5nmY>tquap;kPWxBiOzG7xC.1-pWX6<dUF*N91caC?%:2l~Gjj)zEhg^Y*?LEk@
  ECJ)R_vISZ,=qTA!m9vKQTY8.yQ,)&@q3n0BM&b:?_gnbp?T2zWe8x7,9?K1LtP;NppY4=VJL-Ou^?<_$C;NWAFhe:%NVMb9%
  ><^VEs%BJPiFU!?v<|)oL(QulwC:zovX.fhI--!1~E^Uu=fi_Z,ZNsFW:)NKGz7t?iWXk61$O4eIA?czB3,nLy$:BgoT5hbWn
  u>^RJG)Ca%NV8uJwZ>%ur12+sCNZ1u@x6>GGs;bSq81q~Qhstivhxil<I7ha&IZL:yxPL|+J@FL9pqgq5k|y((!&hLa_qlS(5
  UD)Hm0rFN=7Y|nc)SQ^*4k9TxbQsGQp.8CADVNeYh<E=qCg2=N?U;CmrP?;iDJk1hcE&4GTp<&pZ89cd4$A~5n)ol+wBM>kX2
  .!F(8n:2s5n<2EGzFLo(OLya.9UE?.&n@UPH:w<t9B;p*i*&hng0skC===9.:,:J5GwAi.=XXQxW:DckSY~QR8SoBjAu2KSXP
  $I@eUFmCX|y>JjS(o683JORmDYvoWr|&dssi2mLZ,3V9XQ)%+~boLi?vs<o?:-?j7pAyhDLN?!ylf++|8Np<J43vdG%J0x9!x
  @k8Ut+W3w_YSCic|z1kIZ|S)L,q|M7%!i~qz:iVqzAnmF,EjZ3rrB&b5UNEpO^;>)>n>$-px9Rg6khajI6IS4:xo)ywCv3BDa
  9l*>CLcGDY5cEWc~?J!JK5MA<e@3=(X0,?rzX:0n.1(Q@=7bi@5Off9.I6w|s%$y>R_v9iRD|:?R!9+zJ.7OxNNK4y-Z<GRXm
  iBO($7NeKKgmH_@|)7KlIDI?pkrSoA:8QJ(4wxi::kEz0USrkrJXcjW-CY_rT.$T$yWTGaL5?q5&AciKR?E6Eohb$Sii_k8,d
  Y>x7Bq-<gFJx:@w.a.a=h4xfuV4!1M*8RwgD=vsVtxwGNTi9N9M.|tA4kx!E%>.OUqZ2eu4s|dJO37!!;4D=t5p;-8W:SgjG%
  lVeOwezQSC>$4h!vml@Ffd*L2s3zN&@t9?|XK)G9rD?Ppk7taFmMMY~%Ce@@gXuyI_pwre?~wNnhDT:4|x+KFHd@bjA8@eeJR
  x^P:i,!Q89+Nk-hV53c^~h;8Sj^Z@Ndtmhdy6qETMZp@XnPs:~vsmNfAcN:<1~Y0Wa:q4Boee?p_ZX&M|M)n@tx~i1-tg%7>~
  MHc:QYH<z29@Y>@pT_R0t*PzD0_A~JktyT$gO2,k5kbjTcHVR:LGm~G@pkgifhNzs+Foc;h%AQ*(lz=WFS7n*(T2L%%UcS.!>
  ^vdUczDiinZe45fb;-v&hoyg8)2+?OD?:6kJt0G,g%(x8v7:gtXo)Syt%V&b.5q6bXo~g^C=Z~Tv:xgTpaZdHuO1|UkC.ex<P
  se<M)YwrQPjvAph%;9qsa46-3m3.yMM<))DKqQC_(se1k|stbx?T$s&dO(@29G~Ocw6rEHr%)w;&1H$9S$dOwoD7rc$yn@Pjj
  P%QG0A20(Y$wIOec+<LL|%u=irfcI~jOOWo%bmDcZB+hoPnB)bUB|hTeB!JO:(^AZL:Z<RuOimJ+xD@gGcZ+iSM!Yw;jqP&Hy
  AKdB*3Z|!VYXYL7Es9pwv!!2YCad:+!pn8(uTmQkFHg9DKr5,GXlf0dF%pQ_D2$^vw_THJHd2wQC;_4)lFZfVlV-0Tofw,c%f
  ETJB0soUw_+1=CeU7=%>hmlJ(FHjAr$+~_:2r_vasYr4k:+5@hp!<!~GWX4_:UaktC^zVra;j+0ZD@imTdg5).vNA)&(D+fTo
  =XORaHWg*0rXLIMzkDqx7JI?8~~~4^o)GxI~Ed&|4E^lUo=8g0-b&~^4Ged&7YcJEn>^Ykys1PqXnn^<2n!F)G?I0eOIO:i^;
  0+y)RE?cuS1|F(sAgwXE_0McH:;=c%9%2o-kqdH<JrCKB<>N-lO&HjHscQU:F+NkYf?XK7OtK7<e(Ni87D<J$7(%U|Tnx|Gev
  +_+qtLNhdw-|+1qvQD)p9_=l0wU=3,bM=*v8Km=%YsIn6lb=Wahds;lLvkX)S<05f3to>17g32uWB$S04E1jINFoFhFJ<YR7*
  r0<I|EgNMoTeftH(<R%5l9RHrez^P^0=QOePBg)ltF*APpl>NrpL_b?YQbO4Q3E,VmMFp&XSKR2c5>.tS!l$valpNnP1IPJC+
  ;&,;=fmAW-PmgK-Fe*ZLzTKKV$J|;xu:^Vev9b(G8tFM=Rb;HD4%Rlk)Ozl?o*Q5&tna!!$*k7g=|k^Px%F)t+,xh>)20a?%?
  YRW,u>a9mg3;t8ezI<eylc^a9m$z~,;8-4Szi;Z)j*I(Q>Nf=I94Jmz@=k<Ql=C*j*DrDGQCH49xCSQ$wpq~h<>7cMRH^did_
  ($tRTC?105cqmmrP1.3@la:,sVNmF,@jC!NfS7UD3%T2~f2_HR!!kHy>,Kb()9)D5%i?TAACG1):xjyi94*.&1(CA>ispaB^J
  6Ke~X&SKTMoOFxF<_T;ZiwbiV|&:prn72:v^xmMmQI;-58K(g~lH*7Vr-0t.:l.S0DL^v&l*=aEyF?~N(q6TsSiZQ.rY*dyP6
  ?Wp)^<r2I>5K;A~IU,)a8(M%q8h=G+>P%DvNkBWjqtGMJP(q&<+dZ21~P<3HAv?;!DOfRF76iJBH;AQw^:TgC2_:uZdx^xF:d
  _>E46L:;hx97mmx%%jvj8Ni^u>KlgtjAGykTywVHtQ9w87=GRVXU,MVJ$DS<7@Jrvc7A-0|z79G3pUzJqi:c|=-(wg*^qS-=7
  pjZ<l=%BG83vo>1a5=RFe;Q>V:=Xhw=5x<7^RpXzYFlC;RJh|v$fxMR8.HDqL3_tF,wknfDU7Uto=BMkjXsWLm+k2kETkI8VK
  ZA?MnhtMi&|yyZl6M)|3L_*mldW$9S<EG2f3;d_llq?j_cbgOgPZ|2HfwIw2~^OX>w1Ds(S)<$(N+yV?%TmE^pOR)fTckUiA|
  ?zKgmMsT$d0sD0q!+jP3+qJ!SW=G70GTnxhyBd96aLuHmj;b%(0Wr7X(P18G5Vb.i~mA,a10Vy75HEvVYr^vJwoV9$OArct.Y
  i55)_ODTbGY)>2wS1-mrF@Jezy5k%Lch.a1W=WhJNhK5RbjdnLz6e-EXF3aEgp7Gcp,0Q0zi<OmA30m.a2GUe6(N^RjeK_yrb
  ug;>,s:CliXk~*;BM7~N,O<67B=%*eJo!xuG%962l<a~xs*M_>eZdhc.f95NYJ&2jONS|%5G<Fei5+pvd)FL|PeSdR7^!N6i@
  ~5T=a8osIFnZ<NOSvhJ(NUjX@ULs|ap-A41S&Nbmj6wm(eCfOD@b9Rc$:0dT;LIjYY0EpSg229ediV,tJl4>(lFI4RZWN,Zr^
  X>jz7*~NJ!aT3Nc.q<mFmz5._A6Q?uaN5(fkDf_2)+syF:7*HAFW05k,hLLA;:a>;L$sabc-c(&$nJ,,+_1)s2-^I~<sS0ARq
  qP=:SfoyYb1CB0?_Jekl4&AAXp*:Mod6%X~Z_(g^c$4Wo0_cq&(YW3Fy@.dg:IXh$5giO<T0Nq4g4JgOs=O1^stpMH2G!NqcT
  eLE>4CG!s9k|Sxp$o:@E%Z&M5xAMV!I18PsA<2jt(s*jW&xqLBERj.(>~rlx7jnhbd%ojKLoO>XRjloiRq&F:DyjPsBgR)B-o
  d2grG@)?-cr?jdu<q|!?M)A=^,-0GoD~PrS!mFI^MSy>bv-tXtP+Mh32_;ygb_V=gsp!3NXZcnACw>vW>>j2%GizkD^Ju!=gW
  ?uRxv6nj5~lN5UBsHD??9zR6=g85qXW_CHq1ker2dn%.ql7bB7!&>i%-k3;AyuC;11E5NwHA?Of45$PyS3TAG7YVSL!T%A,C-
  gYytOBurspEnKL@fPc.vBY0h=-sXiJ.gcb?_J<~f(JGo.+:+%MP$34H6l0:^NR!37b_7ZnSvYXj(?jfASq@UlFl8gHQ)bKmxg
  Z(-Sg1jkhXb43vtXV6PK4FLot7XnOrB!jeG9M.*LJK_iakH1ioG?xBt&esjpw7S~?XrKkj;tbT875,1CtdGSWRw-399PG:8x)
  8uTfC?5Dc>To5Q:JFEGGO)y%7l1G80%&3bhnyIL966orbrBl>1,0FScvju8A_eaFHG93CAI<$Nn;da<,ToP0YBh5DMLK5v0Eh
  ?OpM69XjI_q=et:w=;|>VuRl*0,UADUOn_WmV!R=%PT6?;)~<n(inx4fj>!805c2Et!qL<&pRq<=B4icMM$;C)!+w$.HL|18M
  BN>Kt<_?>!k_:Rji0$d?(.6PUSj(~us?0-NcRt=..$k14_PcT4JCC&h^v%(YaQJH2icGauZEyDJFSAZo_BW%>&>h5l,ahzErb
  CA=6P<l$u8OaVUy.fOI-TI|EP3V&^vVvvbk=xDk^R=QxF3Zai&mqS),sPA;$^ssB$g*|%TY2M2>Ky>&2KxJuUXBJfy0A;,)zH
  7~RZIL&%ulLeah>htcTs4BQr!d=qzb!taaEJKDGn^zX?HmNtwUenx-yAvOQI:ZcJ~p?*H$mueu<C=7kC_qtH~<YMH6N8PD@%l
  U%i&JBB6j$,I2^g7Fs1RP~~!yXZFgf0hx+Sawk:XQQIYw69aM,znHf>ud1W-cmcB*(qXmqJ-hZV3zOfYcLC?A9&W$IEJ@7z:5
  O8brBtiU<3@fvb!ie@4(odOeu2Qd@?.xGz)MW>?dl9q(i7in-^9C2-K2xjJ,~2Q&W>36UgO%~Agzmjm_T6@08oQB^MDXMyI,!
  U:gtwTJp1?>$H;x&6Wbl5p|O*ps2:F,8WNpB)&L.V2|*?|^zkzhp|8W,LY+i2ujTz=-,vNtfKwiNM:oBBdBa+34.c$j-oFEcv
  k>:HP(Uu1yB)fO|,j+&KDzgA0cDmk;iYjB:.A4HqQ2.v?wyDJadE&e*nbR1!IOlXh_BUi^av%oF7??=h.5,_CNfw$yMNl%qoD
  =1.AA6mYkYp!T8y9fLx50-~Axus9!ox<Y!P*0czkcV+5j-fjD~jMf11r;;BF7XUFKqu)8_RBPUj2H~b|Pd8:>N3SWsF%idTX2
  p2dHsO1~?^4rA(B0-001uM+4GU,Pol88rY~)gw)x:8:eDgAr!5PfR7YAzV$6qbs>1h4IxC2oDLP1j+,c$LcoV%!RJ<4!Bi<ay
  $6(ppe+WirvK_)81<d0v:sioT%xvtC?P$C-5k4dC~DJ.W:Fx=a=2~h3bJ7uFRWe~NS-(.<A0z8YN1lKSE8<rH@q95L%Uvn(C.
  DFU*qY|osVZv&==!.qEa(14@Jl~1OIQQ;.8&cR9_:W,DyJjOhhH|Y%=bwJPV7p3yG!SVy?%;&(WEv&p1P.Bxo!D(=Jvq+J!WP
  %*S&JSf?K^Z66?J4@noqZF(dXe%W?jFg)kKq;.dqb(lqS=I!HxzG:hyL*bjFa_aiSQe8y8DbVpP-sg6hB7ggIYUb%blOJ,ASd
  nQjuqeO<zt@Zu:D8=XTD;SvXxCS1XYtrIfqNHVf%&+FByg1o=Blpn,H9~1K7Szwhi<^(3M%jz@dXIUyr*u?.q19W,T8L.nW9:
  =$A5Jkt~s:AV2;^-kdun~w^EO*9LH,6v^(H)xjL(1jiq8kFIuFNW*~kOY~>PC*z)Z)rz@~!=m^Cnbw-)3w|$L4(W9LI)(8Hq&
  aquJneUKuhh~rtN%-%@)G4f84(VxX>*LJh:Wt)1tn7PTv^0HL*32uNCtc++dO=C+v$Fd62(9RJLX@ZVKH5xTNs@!g_m(1ocbn
  q$4Bem:swt.|4Yky&cpT7AO~$O;bj.ubJ>^6kfFDZb6)yP2~C5wyIt0B2Dy8lfl+zk6Jeo@S~$Mdy>Y*4W*xZCVGjlqLN1L6f
  ZqwC&zoMa_iCAE,FaCZ&eT5Djq5XO^0K?&5!Vc@%2F*IsUZ!uw?f-_:lWK3rzNPEWOXIWE^1%g0@$H=ka2^pC%%TTPZIv^d%v
  RJh3zL8=:&?_c2JP+_FtLD5Zh?&%S5XL1-J9nEfC1qS;%cCvyJPodf*0z5kG?PWg0)Yg%c^.d8VrHF,s331$OLhvOne+lKvEb
  w(CRwIuk0D^W7Rf=tXC~A7QPK:ZVTOqm:oP!SP?Rl2z;CpES7^%>D5)%lCCSNC|c<-2hzD48,(1_aq3?0JfBq|v_9:DcTMx%N
  voic_BwC~_9*~lG~-3!fls7F.w+kAHQh>gw*fM<tBR4HG?K7Bzit6C;w8~L|KmA3I<%8@a(X7D<d)0DdFX2LRAJS=wf(lC!BO
  zpntKa-:zH&gb-_Mc*H>CiDOC6EpZd_HoXWXkx,5nc*OT7zZQRR$kn*Zybo:Da-&_UcAjVl+WzA9BJH;VksX1=Bb@4%5=NN.^
  CBS?s~cne_Zd3OCZ!TXWDP15NB~4GS31b1jgH-WvlHUFj1gOKE?C(sM|$*Ek3-g$o@JaH3|*hsGv~mMV2dBX682x,(ag4?-1Q
  2Kt67RWw7iEnzCJ|=.(wQ-j!9v5a+48QrUkiUwMu,VFUnhtq,S,*F^5wNOILW;4~Pe8mP32DJ.qpk.$=AU)W;qNg2<nA=ne+l
  LT?3z)$+qE,zeOn=:7g2K3<cL=?IjN)QAtz.G)ARVaTFUG9sCM9T~:%pQXbr~GQP+kc26T@qw>V<H*-*jeZ)5GOGtia|0FJ=U
  <eBa)xi4+1Jr,B^:;oEd<(uz,maA14mutGl??_Nok$ccqeil2TwyNp:$TxUF.5hHKxTC7*oG*I~C%oAofC$sBr4P*wg!op;KF
  TOYcy*<c5uwq3+Z&^V;Gi_9!!"

end Harvest.Text
