import StatusRollup.Unicode.Table

/-!
# Ages

The version of the standard in which each code point got its meaning. The set of a version holds
everything that had a meaning by then.
-/

namespace StatusRollup.Unicode

/-- The versions in runs, each as a letter; `z` is no version at all. -/
def ageTable : String :=
  "a1F5 d3 a1D d7 f g d11 g2 hA iD a58 d4 g1 a2E d a9 d4 g10 a45 d8 f g7 h4 g2 a1 d fC j3 a1 j1 z1 a
i2 a p z3 a6 z a z a13 z a2B j a6 d f1 a d a d a d a d a11 e1 f g4 h3 d aB d a41 d aB d a28 j d1
f1 d3 a34 f1 a1 f1 a1 f1 i a1B d1 a7 h1 a1 i5 fF i3 jF k1 l1 p7 z a25 z1 a6 t a26 t a d z1 p1 m z
b10 h bC a9 i a8 b h2 z7 a1A z3 t a4 zA g3 m p j4 h a g8 j4 a o x h a l a19 j4 a12 d2 g2 h5 l aD
f1 a47 d1 a4 d aE d a1D g1 a9 d4 g dD z d1D g2 d1A z1 g2 h1D j11 d30 f zD i3A z1 t2 k2D z1 kE z
l1B z1 l z sA z4 x1E z x1 z5 x7 m p mA p5 q1 x r7 w9 xA t rE q m1A p k a2 g a34 l1 a11 k l a4 k l1
a18 j1 l4 p k1 i1 h i1 p a2 z a7 z1 a1 z1 a15 z a6 z a z2 a3 z1 a g a6 z1 a1 z1 a2 h z7 a z3 a1 z
a4 z1 a14 k s1 t z1 g a g z a5 z3 a1 z1 a15 z a6 z a1 z a1 z a1 z1 a z a4 z3 a1 z1 a2 z2 j z6 a3 z
a z6 aE j t z9 a2 z a6 g a z a2 z a15 z a6 z a1 z a4 z1 a9 z a2 z a2 z1 a zE a g2 z1 a9 m g z6 q
s5 z a2 z a7 z1 a1 z1 a15 z a6 z a1 z g a3 z1 a7 j z1 a1 z1 a2 z6 w a1 z3 a1 z a2 j1 z1 aA g l5 z9
a1 z a5 z2 a2 z a3 z2 a1 z a z a1 z2 a1 z2 a2 z2 a7 h a2 z3 a4 z2 a2 z a3 z1 j z5 a zD h aB g7 z4
p a2 t a7 z a2 z a16 z a9 p a4 z1 x j a6 z a2 z a3 z6 a1 z j1 q z1 x z1 a1 j1 z1 a9 z6 u j7 r p a1
t a7 z a2 z a16 z a9 z a4 z1 g1 a6 z a2 z a3 z6 a1 z5 x a z a1 i1 z1 a9 z i1 y zB s p a1 w a7 z a2
z a16 l aF l s1 j a5 j z a2 z a3 l r z3 r2 a r6 q a1 j1 z1 a9 j5 r2 j6 z w d1 z d11 z2 d17 z d8 z
d z1 d6 z2 d z3 d5 z d z d7 z5 p9 z1 d2 zB a39 z3 a1C z24 a1 z a z u a1 u a z u a u5 a3 u a6 u a2
z a z a u1 a1 u aC u a2 z1 a4 z a z a5 y z a9 z1 a1 m1 z1F b47 z b20 d j1 z3 b1A l3 b5 d b z b14
d2 b6 d b d2 z dE z j d h1 j2 k3 l1 z24 d21 j d4 j d1 j d6 j2 d3 j5 d19 j3F k3 j1 a25 z m z4 m z1
a26 f1 h1 a h m2 a59 k4 a43 k4 a51 k5 d6 h d3E h d z d3 z1 d6 z d z d3 z1 d26 h d z d3 z1 d1E h d
z d3 z1 d6 z d z d3 z1 d6 h d6 z d16 h d1E h d z d3 z1 d6 h d26 h d12 z1 l1 h1 d1B z2 h19 z5 d54 q
z1 q5 z1 k d275 k8 d1C z2 d50 p7 z6 fC x f6 x z8 x f16 z8 f13 zB fC z f2 z f1 zB d5C g z1 d9 z5 g9
z5 dE x d9 z5 d57 t z6 d29 j z4 k45 z9 g1C p1 z gB z3 gB z3 g z2 g29 z1 g4 zA h29 k1 z3 h19 z5 h9
k z2 h1 g1F h1B z1 h1 k3E z k1C z1 kA z5 k9 z5 kD z1 pE w1 xD z30 i4B x z2 i2C x1 z j2A m2 jB m5
l33 z7 l3 j37 z2 jE z2 j32 r8 z6 t2A z1 t2 m7 z7 k22 m3 s p1 u z4 g6B h57 i6 j1B pE s3 x r l k i1
a9A b j3 a59 j5 a15 z1 a5 z1 a25 z1 a5 z1 a7 z a z a z a z a1E z1 a34 z aE z aD z1 a5 z a12 z1 a2
z a8 z a2E d a16 f d5 f4 g1 h1 f h6 f4 j z o3 a6 f z1 a1A z h4 l7 z2 aA b c d2 f1 h3 k2 l n p2 q s
x zE a11 d1 f6 h i3 j zE a38 d1 g h fE h i1 j k2 a2F d i j3 k q1 z3 a5A d8 fB aF1 fD a d a78 d f
d1D f33 g1 hA iB k lA p6 r3 s a24 d1 z18 aA z14 a8A f13 g a95 f9 a4F d7 f7 a13 g1 f1 h d a55 d1 fB
h1 f9 g7 hA j k1 g1 hF i j9 k2 j3 k9 l k12 l k l3 k17 p a3 l a3 l1 a1B l a22 l a l a3 l2 a k a6 l1
a6 fD a1E l2 a17 l aD l h6 i3 m j m l1 f1B j3 fF dFF f1FF gD h5 i6 j4 i3 j28 p2 j4 k4 p19 z1 p1F z
w p21 t2 pB u p7 s t18 q3 tE u h2E x h2E x iC j2 k j2 i3 j5 k1 h6A k6 m1 z4 h2C z m z4 m z1 h35 m1
z6 h l zD l h16 z8 h6 z h6 z h6 z h6 z h6 z h6 z h6 z h6 z j1F h17 j3 h1 j12 k m9 p6 r1 s4 t4 u w2
xA z21 d19 z d58 zB dD5 z19 dB z3 a37 d2 f2 d a z a53 f1 z1 a5 f1 a5D f z4 a27 j s t z a5D z aF
d17 l2 w4 hF j13 zB fF a1C g1 z a23 kB g fE a1B g1 h a31 fE aB g3 a2E v a76 g3 a62 g1 a1E g d19B5
w9 g3F a51A5 h15 j7 k7 m q8 s14 t4 wC x2 d48C z2 d11 f1 dF f dB f d2 f d z8 k2F j12B z13 j1F l1
j11 m7 j1B p5 q m k57 z7 h16 i3 j4 i1 j6A l1 q l1 m1 pB l9 m p2 r t p1 q5 t1 u5 x1 u4 w3 z4 x1 z x
z x4 z17 x2 w1 p m1 l j4 h2B w z2 k9 z5 i37 z7 j44 r z7 jB z5 k1B q1 t1 j53 zA j k1C z2 k4D z kA
z3 k1 p1E z j36 z8 jD z1 j9 z1 j3 k1B p3 k42 z17 k4 m16 z9 l5 z1 l5 z1 l5 z8 l6 z l6 z p2F q3 p1
u1 w3 z3 q4F k2D z1 k9 z5 b2BA3 zB k16 z3 k30 z3 b7FF a1A2D m1 f3A k2 z1 h69 z25 a6 zB a4 z4 d a18
z a4 z a z a1 z a1 z a6B lF x zF a16C xF a3F z1 a35 z6 x e1F aB f g x1 fF h9 z5 a3 j2 p6 q1 a14 f1
g1 a9 z a12 z a3 z3 a2 f a z a86 z1 a z a5D f1 a5D z2 a5 z1 a5 z1 a5 z1 a2 z2 a6 z a6 z9 d2 c a2
gB z g19 z g12 z g1 z gE z1 gD z21 g7A z4 g2 z3 g2C z2 g8 h4A p1 r1 z jB w z2 p z2E j2D z81 j1C z2
j30 zE p1B z3 e1E p e3 z8 s2 e1A z4 p2A z4 g1D z g h23 z3 hD z29 e25 g1 e25 g4F z1 g9 z5 r23 z3
r23 z3 p27 z7 p33 zA p xA z xE z x6 z x1 z xA z xE z x6 z x1 z42 p136 z8 p15 z9 p7 z17 x5 z x29 z
x8 z44 g5 z1 g z g2B z g1 z2 g z1 g k15 z k8 p3E z7 p8 z2F q12 z q1 z4 q4 i19 k1 z2 i j19 z4 j z3F
m37 z3 q1 m1 qF z1 q2D h3 z h1 z4 h7 z h2 z h1A t1 z1 h2 z3 h8 t z6 h8 z6 k1F p1F z1F p26 z3 pB z8
k35 z2 k1C z1 k1A z4 k7 p11 z6 p3 zB p6 z4F k48 z36 q32 zC q32 z6 q5 t27 z7 t9 z125 k1E z w29 z w2
z1 w1 z4A y2 t27 z7 t29 z15 x19 z25 w1B z13 u16 z8 l4D z3 l1D x5 z8 p k41 x z9 t z1 m18 z6 m9 z5
m34 z mD t2 w z7 p26 z8 m48 q3 p w1 m9 p q4 z p13 zA p11 z p2A r y2 z3D q6 z q z q3 z qE z qA z5
p3A z4 p9 z5 q p2 z p7 z1 p1 z1 p15 z p6 z p1 z p4 z t p8 z1 p1 z1 p2 z1 q z5 p z4 p6 z1 p6 z2 p4
z8A r59 w r z r t u w1 z1D p47 z7 p9 zA5 p35 z1 p11 q13 z21 p44 zA p9 z5 rC z12 m37 u x z5 m9 z35
q19 t z1 qE z3 qF x6 zB8 t3B z63 p52 zB p w6 z1 w z1 w7 z w1 z w1D z w1 z1 wB z8 w9 z45 u7 z1 u2D
z1 uA z1A s47 z7 s33 u1 s16 t s4 zC xF p38 z6 y9 zF5 r8 z r2C z rD z9 r1C z2 r1F z1 r15 z rD z48
s6 z s1 z s2B z2 s z s1 z s8 z7 s9 z5 t5 z t1 z t24 z t1 z t5 z6 t9 z135 t18 z6 y10 z y28 z2 y1B
z55 w zE u31 zC u i36E p29 q z65 i62 pB z i3 p zA qC3 zA4B x62 zC k42E y u8 y1C zFA9 q246 z21B8
l238 z6 p1E z p9 z3 p1 x4E z x9 z5 p1D z1 p5 z9 p45 z9 p9 z p6 z p14 z4 p12 z2AF t5A z64 m44 u5 z3
u m2E u8 z6 m10 z3F r s u1 w zA w1 zD r17EC t4 u5 z7 r2F2 w1E2 z29 w8 z22E6 x3 z x6 z x1 z l1 s11C
x3 zE y z1C u2 z1 y zD u3 z7 s18B z903 p6A z4 pC z2 p8 z6 p9 z1 p7 z125B x2D z1 x16 z8 x73 z3B eF5
z9 e26 z1 j eB3 qA x1 z14 h45 z79 y13 zB t13 zB g56 z8 i11 t6 z86 e54 z e46 z e1 z1 e z1 e1 z1 e3
z eB z e z e3 g e1 z e40 z e3 z1 e7 z e6 z e1B z e3 z e4 z e z2 e6 z e151 h1 z1 e121 i1 z1 e31
q28B zE q4 z qE z44F x1E z5 y5 zD4 r6 z r10 z1 r6 z r1 z r4 z4 y3D z20 y z6F u2C z2 uD z1 u9 z3 u1
z13F x1E z10 u39 z4 u z1CF y29 z2E5 x6 z x3 z x1 z xE z pC4 z1 pF z28 r4A u z3 r9 z3 r1 z310 t43
z4B u3C zC1 m3 z m1A z m1 z m z1 m z m9 z m3 z m z m z5 m z3 m z m z m z m2 z m1 z m z1 m z m z m
z m z m z m1 z m z1 m3 z m6 z m3 z m3 z m z m9 z m10 z4 m2 z m4 z m10 z33 m1 z10D j2B z3 j63 zB lE
z1 lD p z lE z lE p15 z9 kA p1 w2 k1E t l k lA k l k l1 k l2 k l2 k4 l7 k l6 k l9 m1 u w2 l8 k l
k1 l1 k l9 k3 l1 k l9 r11 w z37 l19 k l1 zC k21 l8 r z3 k8 z6 l1 zD s5 z99 l20 pB q2 l5 p l45 p q1
l13 pB l24 p l4 p3 q4 pB l10 p6 q7 l3E p l p lB5 p l3 p1 q l3D p1 m3 p6 q4 l17 p11 r p28 r p55 l4
m lF m l2 m l m l m l m l2 m l5 m1 l3 m l m1 l3 m lB p1 q1 lA p2F l45 p9 q r1 s1 u w1 z3 y x2 pC
z2 p3 r2 s1 t u w1 z2 l73 y2 z3 y4 p54 t3 y z5 uB z3 x zE pB z3 p37 z7 p9 z5 p27 z7 p1D z1 w1 z4D
sB w u2 q8 r5 s r7 s7 r s1 rB u rB s t2 rE sC t4 u w t3 w1 x t u t3 q4 rC s5 tA w1 u5 w2 u1 t9 u5
q t1 u7 w x u2 s16 t18 u53 zB tD z1 u3 w y2 u2 x1 z2 u2 w3 y1 z6 u5 w12 x3 y2 w6 x3 y2 z y w2 x2
z7 y1 w6 x2 y1 z3 x7 y z6 x6 y1 z6 w92 z w36 z24 w9 z403 b1 eA6D6 w6 x1 z1F k1034 x3 y z5 lDD z1
q1681 zD s1D30 zC1E e21D z5DF b1 w134A z4 y105F zDC4D b1 zFFFD b1 zFFFD b1 zFFFD b1 zFFFD b1 zFFFD
b1 zFFFD b1 zFFFD b1 zFFFD b1 zFFFD b1 zFFFD b1 z e z1D e5F z7F gEF zFE0D b20001 z"

/-- The versions in order, with their letters. -/
def versions : List (String × Char) :=
  [("1.1", 'a'), ("2.0", 'b'), ("2.1", 'c'), ("3.0", 'd'), ("3.1", 'e'), ("3.2", 'f'),
    ("4.0", 'g'), ("4.1", 'h'), ("5.0", 'i'), ("5.1", 'j'), ("5.2", 'k'), ("6.0", 'l'),
    ("6.1", 'm'), ("6.2", 'n'), ("6.3", 'o'), ("7.0", 'p'), ("8.0", 'q'), ("9.0", 'r'),
    ("10.0", 's'), ("11.0", 't'), ("12.0", 'u'), ("12.1", 'v'), ("13.0", 'w'), ("14.0", 'x'),
    ("15.0", 'y')]

/-- The code points with a meaning in a version. -/
def ofAge (letter : Char) : CodeSet :=
  select (fun c ↦ c.all fun x ↦ x ≤ letter) (runs 1 ageTable)

end StatusRollup.Unicode
