/-!
# Tables for domain names

Properties of Unicode characters that decide what a domain name may look like. Each table lists runs
of code points in order. An entry is the distance to the start of the run before it, then a capital
letter that says what holds for the run, then further numbers where the letter calls for them; all
numbers are in base 36. A run lasts until the next one begins.
-/

set_option autoImplicit false

namespace RelayTunnel.Url.DomainTables

/-- What becomes of a character before it is used in a domain name: `V` it stays, `X` it is not
allowed, `I` it is dropped, `P` and `N` it moves up or down by a number, `A` every other
character of the run, from the first on, moves up by one and the ones between stay, `M` it
becomes the listed characters. -/
def mapping : List String :=
  ["0V 1tPw qV 11X wN3k 1V 7Mw_lk 1V 1N21 1V 2I 1V 1Mw_lg 1V 2N3k 2Mw_ld 1Plj 1V 2Mw_mf 1N3s",
   "1N23 1V 1M1d_6dg_1g 1M1d_6dg_1e 1M1f_6dg_1g 1V 1Pw nV 1Pw 7V xA 1cM2x_lj 1V 1M2x_2y 1M2x_2y",
   "1P1 1V 1P1 1V 2A 6M30_53 1M30_53 1A 8Mjg_32 1A 1aN3d 1A 6N7g 1V 1P5u 1A 4P5q 1P1 1V 1P5p 2P1",
   "1V 2P27 1P5m 1P5n 1P1 1V 1P5p 1P5r 1V 1P5v 1P5t 1P1 1V 3P5v 1P5x 1V 1P5y 1A 6P62 1P1 1V 1P62",
   "1V 2P1 1V 1P62 1P1 1V 1P61 2A 4P63 1P1 1V 3P1 1V 7M2s_am 1M2s_am 1M2s_am 1M30_2y 1M30_2y",
   "1M30_2y 1M32_2y 1M32_2y 1M32_2y 1A eP1 1V 2A gP1 1V 2M2s_3e 1M2s_3e 1M2s_3e 1P1 1V 1N2p 1N1k",
   "1A 14N3m 1V 1A gP1 1V 7P8bv 1P1 1V 1N4j 1P8bs 1V 2P1 1V 1N5f 1P1x 1P1z 1A 8P1 1V 2pNg8 1N23",
   "1Ng8 1Ng1 1N1n 1N1m 1N1h 1Ng0 1Nfz 1V vMw_li 1Mw_lj 1Mw_lm 1Mw_mg 1Mw_lf 1Mw_ln 1V 2N3h 1Nhh",
   "1Nhb 1Nh7 1N27 1V 2jN1s 2V 1N1c 1Mlk_ld 1P38 1V 9I 1V wA 4N57 1V 1P1 1V 1X 2Mw_qh 1V 3Nn7",
   "1P38 1X 4Mw_ld 1Mw_lk_ld 1P12 1Nk0 1P11 3X 1P1s 1X 1P1r 2V 1Pw hX 1Pw 9V zP8 1Nu 1Np 1Nd 1N6",
   "1N9 1Nf 1Nm 1V 1A oN1i 1N1c 1N1b 1V 1N1o 1N1s 1V 1P1 1V 1N1i 1P1 1V 2N3m 3P28 gPw wV 1cA wP1",
   "1V 9A 1iX 1A cP1 1V 2A 2oX 1P1c 12X 2V 1aM12d_136 1V 3X 2V 3X 1V 1jX 8V rX 4V 6X hV mX 1V",
   "2gM17r_19w 1M18o_19w 1M1c7_19w 1M18q_19w 1V 2sX 1V 1cX 2V 1nX 2V 2tX eV 1nX 2V 1dX 2V fX 1V",
   "sX 2V 1X 1V bX 5V vX 9V 22X 1V 39M1sl_1to 1M1sm_1to 1M1sn_1to 1M1ss_1to 1M1sx_1to 1M1sy_1to",
   "1M1t7_1to 1M1tb_1to 1V 10X 1V 8X 2V 2X 2V mX 1V 7X 1V 1X 3V 4X 2V 9X 2V 2X 2V 4X 8V 1X",
   "4M1wh_1x8 1M1wi_1x8 1X 1M1wv_1x8 1V 4X 2V pX 2V 3X 1V 6X 4V 2X 2V mX 1V 7X 1V 1M20i_20s 1X",
   "1V 1M20o_20s 1X 1V 2X 2V 1X 1V 5X 4V 2X 2V 3X 3V 1X 7M1zq_20s 1M1zr_20s 1M1zw_20s 1V 1X",
   "1M20b_20s 1X 7V hX aV 3X 1V 9X 1V 3X 1V mX 1V 7X 1V 2X 1V 5X 2V aX 1V 3X 1V 3X 2V 1X fV 4X",
   "2V cX 7V 7X 1V 3X 1V 8X 2V 2X 2V mX 1V 7X 1V 2X 1V 5X 2V 9X 2V 2X 2V 3X 7V 3X 4M275_27w",
   "1M276_27w 1X 1V 5X 2V iX aV 2X 1V 6X 3V 3X 1V 4X 3V 2X 1V 1X 1V 2X 3V 2X 3V 3X 3V cX 4V 5X",
   "3V 3X 1V 4X 2V 1X 6V 1X eV lX 5V dX 1V 3X 1V nX 1V gX 2V 9X 1V 3X 1V 4X 7V 2X 1V 3X 2V 1X 2V",
   "4X 2V aX 7V mX 1V 3X 1V nX 1V aX 1V 5X 2V 9X 1V 3X 1V 4X 7V 2X 6V 2X 1V 4X 2V aX 1V 3X cV dX",
   "1V 3X 1V 1fX 1V 3X 1V 6X 4V gX 2V qX 1V 3X 1V iX 3V oX 1V 9X 1V 1X 2V 7X 3V 1X 4V 6X 1V 1X",
   "1V 8X 6V aX 2V 3X cV 1eM2tp_2sy 1V 7X 4V tX 11V 2X 1V 1X 1V 5X 1V oX 1V 1X 1V cM2x9_2wi 1V",
   "aX 2V 5X 1V 1X 1V 7X 1V aX 2M2wb_2vt 1M2wb_2w1 1V 2X wV cN1 1V 1iM30i_33r 1V 4X 1V 4M30s_33r",
   "1V 4M30x_33r 1V 4M312_33r 1V 4M317_33r 1V cM30g_33p 1V 3X 4V 2M31t_31u 1V 1M31t_31w",
   "1M33m_328 1M33m_31t_328 1M33n_328 1M33n_31t_328 1V 7M31t_328 1V hM32q_33r 1V 4X 1V 4M330_33r",
   "1V 4M335_33r 1V 4M33a_33r 1V 4M33f_33r 1V cM32o_33p 1V 3X 1V fX 1V dX 11V 4gX 13P5ls 1X",
   "5P5ls 1X 2V 18Nw 1V 2qX 2V 6gX 1V 4X 2V 7X 1V 1X 1V 4X 2V 15X 1V 4X 2V xX 1V 4X 2V 7X 1V 1X",
   "1V 4X 2V fX 1V 1lX 1V 4X 2V 1vX 2V wX 3V qX 6V 2eX 2N8 6X 2V hsX 1V sX 3V 2hX 7V mX 9V oX 9V",
   "kX cV dX 1V 3X 1V 2X cV 1gX 2V 14X 2V aX 6V aX 6V 6X 1V 4I 3X 1I 1V aX 6V 2hX 7V 17X 5V 1yX",
   "aV vX 1V cX 4V cX 4V 1X 3V 16X 2V 5X bV 18X 4V qX 6V bX 3V 1qX 2V 1tX 1V tX 2V bX 6V aX 6V",
   "eX 2V vX 1dV 25X 3V 1bX 1V 38X 8V 1oX 3V fX 3V 1fN4su 1N4st 1N4sk 1N4si 2N4sj 1N4sc 1N4ro",
   "1Pr7n 1X 7N2bk 17X 2N2bk 3V 8X 8V 17X 5V 18N5or 1N5l3 1N5os 1V 1N5os 2N5ed 1N5os 8V 1N5ot",
   "1N5cq 1N5ou 1N5ot 1N5os 2N5or 1N5pe 1N5bo 2N1w 1N5ph 1N5pg 2N5bl 1N5bk 2N5pi 1V 1N5pg 1N5pf",
   "1N5ja 1N5pf 1N5bz 1N1q 2N5pi 1N5pf 2N1o 1N5bf 1N5ph 1N1j 1N52j 3N522 2N5q1 1N5pt 1N5pr 2N52s",
   "2N52f 1N52b 2V dN4zf 1V yN5e1 1N5rt 1N5e0 1N5ny 1N5dv 1N5ru 1N5du 1N5dt 1N5dq 1N5do 3N18",
   "1N5cb 1N5do 1N11 1N5cc 1N5dn 1N5dp 1N5do 4N5dm 1N5dd 2N5je 1N5d9 2N4c 1N5da 2N5s1 1N5d8",
   "3N553 1V 1sA 44P1 1V 5M2p_ji 1N1m 1V 2N5vj 1V 1A 2mP1 1V 9N8 8V 6X 2N8 6X 2V 8N8 8V 8N8 8V",
   "6X 2N8 6X 2V 8X 1N8 1X 1N8 1X 1N8 1X 1N8 1V 8N8 8V 1N5hh 1V 1N5hi 1V 1N5hj 1V 1N5hk 1V 1N5gt",
   "1V 1N5gu 1V 1N5gv 1X 2M64g_qh 1M64h_qh 1M64i_qh 1M64j_qh 1M64k_qh 1M64l_qh 1M64m_qh 1M64n_qh",
   "1M64g_qh 1M64h_qh 1M64i_qh 1M64j_qh 1M64k_qh 1M64l_qh 1M64m_qh 1M64n_qh 1M65c_qh 1M65d_qh",
   "1M65e_qh 1M65f_qh 1M65g_qh 1M65h_qh 1M65i_qh 1M65j_qh 1M65c_qh 1M65d_qh 1M65e_qh 1M65f_qh",
   "1M65g_qh 1M65h_qh 1M65i_qh 1M65j_qh 1M674_qh 1M675_qh 1M676_qh 1M677_qh 1M678_qh 1M679_qh",
   "1M67a_qh 1M67b_qh 1M674_qh 1M675_qh 1M676_qh 1M677_qh 1M678_qh 1M679_qh 1M67a_qh 1M67b_qh 1V",
   "2M67k_qh 1Mq9_qh 1Mq4_qh 1X 1V 1M69i_qh 1N8 2N22 1N5jj 1Mq9_qh 1Mw_lv 1N5j9 1Mw_lv 1Mw_n6",
   "1Mw_lk_n6 1M67o_qh 1Mqf_qh 1Mq6_qh 1X 1V 1M69y_qh 1N2e 1N5jw 1N2e 1N5jx 1Mqf_qh 1Mw_lv_lc",
   "1Mw_lv_ld 1Mw_lv_n6 1V 3N5kz 1X 2V 2N8 2N2s 1N5kc 1X 1Mw_lw_lc 1Mw_lw_ld 1Mw_lw_n6 1V 3N5kj",
   "1V 4N8 2N34 1N5jy 1N7 1Mw_lk_lc 1Mw_lk_ld 1N68f 1X 2M67w_qh 1Mqx_qh 1Mr2_qh 1X 1V 1M6ba_qh",
   "1N3k 1N5kd 1N3i 1N5kd 1Mqx_qh 1Mw_ld 1Mw_lw 1X 1Mw bI 1V 2X 2V 1N1 1V 5Mw_mr 1V cX 3V 1X",
   "7N6bz 1V 3M6cy_6cy 1M6cy_6cy_6cy 1V 1M6d1_6d1 1M6d1_6d1_6d1 1V 4Mx_x 1V 1Mw_lh 1V 8M1r_1r",
   "1M1r_x 1Mx_1r 1V dM6cy_6cy_6cy_6cy 1V 7N6db 1I 1X 3I 1X bN6dc 1N6bs 1X 2N6dc 6N6dr 1Pbb",
   "1N6db 1N6dx 2N6c1 1N6ds aN6e7 1Pav 1N6dr 1N6ed 2X 1N6cv 1N6cs 1N6cj 1N6cb 1N5yz 1N6ct 1N6cr",
   "4N6cq 1N6co 2X 3V 8M36_37 1V oX fV xX fM2p_1b_2r 1M2p_1b_37 1N6fz 1M4w_2r 1V 1M2r_1b_33",
   "1M2r_1b_39 1N624 1V 1M4w_2u 1N6g3 2M2w 3N6aw 1M2x 2M30 2V 1N6g7 1M32_33 1V 2N6g9 3M36 2V",
   "2M37_31 1M38_2t_30 1M38_31 1V 1N6ga 1V 1N5st 1V 1N6ge 1V 1N6gv 1N6di 1N6h6 2V 1M2t 2N6h7 1X",
   "1N6h2 1N6h1 1N5et 4N6hc 1V 1M2u_2p_3c 1N5to 1Mqb 2N5tr 1P5t 1V 4M2s 2N6hu 1N6hr 2V",
   "6M1d_6dg_1j 1M1d_6dg_1l 1M1d_6dg_1d_1c 1M1d_6dg_1f 1M1e_6dg_1f 1M1d_6dg_1h 1M1e_6dg_1h",
   "1M1f_6dg_1h 1M1g_6dg_1h 1M1d_6dg_1i 1M1h_6dg_1i 1M1d_6dg_1k 1M1f_6dg_1k 1M1h_6dg_1k",
   "1M1j_6dg_1k 1M1d_6dg 1N6if 1M2x_2x 1M2x_2x_2x 1M2x_3a 1N6i6 1M3a_2x 1M3a_2x_2x 1M3a_2x_2x_2x",
   "1M2x_3c 1N6i9 1M3c_2x 1M3c_2x_2x 1N6io 1N6iy 2N6iq 1N6iv 1M2x_2x 1M2x_2x_2x 1M2x_3a 1N6im",
   "1M3a_2x 1M3a_2x_2x 1M3a_2x_2x_2x 1M2x_3c 1N6ip 1M3c_2x 1M3c_2x_2x 1N6j4 1N6je 2N6j6 1V 3X 1V",
   "5M1c_6dg_1f 1V 2X 4V 4cM6qz_6qz 1M6qz_6qz_6qz 1V 1M6r2_6r2 1M6r2_6r2_6r2 1V 6wP2jj 2V 70X pV",
   "bX lN75b 9M1d_1c 1M1d_1d 1M1d_1e 1M1d_1f 1M1d_1g 1M1d_1h 1M1d_1i 1M1d_1j 1M1d_1k 1M1d_1l",
   "1M1e_1c 1M14_1d_15 1M14_1e_15 1M14_1f_15 1M14_1g_15 1M14_1h_15 1M14_1i_15 1M14_1j_15",
   "1M14_1k_15 1M14_1l_15 1M14_1d_1c_15 1M14_1d_1d_15 1M14_1d_1e_15 1M14_1d_1f_15 1M14_1d_1g_15",
   "1M14_1d_1h_15 1M14_1d_1i_15 1M14_1d_1j_15 1M14_1d_1k_15 1M14_1d_1l_15 1M14_1e_1c_15 1X",
   "kM14_2p_15 1M14_2q_15 1M14_2r_15 1M14_2s_15 1M14_2t_15 1M14_2u_15 1M14_2v_15 1M14_2w_15",
   "1M14_2x_15 1M14_2y_15 1M14_2z_15 1M14_30_15 1M14_31_15 1M14_32_15 1M14_33_15 1M14_34_15",
   "1M14_35_15 1M14_36_15 1M14_37_15 1M14_38_15 1M14_39_15 1M14_3a_15 1M14_3b_15 1M14_3c_15",
   "1M14_3d_15 1M14_3e_15 1N76d qN773 qN796 1V 10hM6qz_6qz_6qz_6qz 1V 2vM1m_1m_1p 1M1p_1p",
   "1M1p_1p_1p 1V 2tM8gt_mw 1V 47X 2V wX 1V 2xP1c 1cV 1cP1 1V 1N8af 1N2xy 1N89z 1V 2A 6N8bg",
   "1N8al 1N8bj 1N8bi 1V 1P1 1V 2P1 1V 6N8pe 1N8p3 1N8cf 2A 2qP1 1V 8P1 1V 1P1 1V 4P1 1V 1X 5V",
   "19X 1V 1X 5V 1X 2V 1kX 7Ne 1V 1X eV oX 9V 7X 1V 7X 1V 7X 1V 7X 1V 7X 1V 7X 1V 7X 1V 7X 1V",
   "3iX yV qX 1V 4Pc32 1V 2bPm98 1X cP64g 1P65j 1P65w 1P664 1P66t 1P680 1P686 1P68p 1P69e 1P6ra",
   "1P6sb 1P6sg 1P6t2 1P6tl 1P6u5 1P6vl 1P6w5 1P6wf 1P70p 1P73a 1P741 1P745 1P74y 1P756 1P75w",
   "1P768 1P76w 1P78b 1P78s 1P79i 1P7uh 1P7wg 1P897 1P89t 1P8a0 1P8aa 1P8ar 1P8cu 1P8q2 1P8rd",
   "1P8uo 1P8va 1P8vs 1P8wd 1P8xu 1P8xw 1P97x 1P986 1P98h 1P98t 1P9c0 1P9c7 1P9cb 1P9fj 1P9fs",
   "1P9g4 1P9gb 1P9hz 1P9if 1P9iw 1P9l3 1Pa17 1Pa2g 1Pa30 1Panj 1Pann 1Papx 1Paqc 1Paqo 1Par8",
   "1Pasa 1Pase 1Pazs 1Pb0f 1Pb1a 1Pbth 1Pbva 1Pbvw 1Pbxh 1Pby4 1Pbyc 1Pbyi 1Pbzx 1Pc01 1Pc0w",
   "1Pcuu 1Pd78 1Pd7j 1Pd7n 1Pd7q 1Pd7x 1Pd8e 1Pd8f 1Pdan 1Pdgm 1Pdgq 1Pdq4 1Pdqd 1Pdrq 1Pdrw",
   "1Pds4 1Pdsb 1Pdut 1Pduz 1Pe1a 1Pe1g 1Pe2s 1Pe38 1Pe4i 1Peb2 1Peb8 1Pebo 1Pekq 1Peo7 1Peoc",
   "1Petd 1Pevr 1Pex0 1Pf7h 1Pfb5 1Pfr2 1Pfrs 1Pftc 1Pfuq 1Pfwl 1Pfwv 1Pfx0 1Pfxw 1Pfzz 1Pg08",
   "1Pg9t 1Pg9z 1Pga7 1Pgaf 1Pgau 1Pgb8 1Pgbb 1Pgdh 1Pgdk 1Pgdp 1Ph4x 1Ph5q 1Phiq 1Phj1 1Phjn",
   "1Phrh 1Phrt 1Phtr 1Phv0 1Piaq 1Pib4 1Pibi 1Picg 1Pidg 1Piiy 1Pij9 1Pil3 1Piry 1Piss 1Piyk",
   "1Piz4 1Piz8 1Pj5b 1Pjae 1Pjdu 1Pjdz 1Pje3 1Pk40 1Pk48 1Pk8j 1Pkcs 1Pkcu 1Pke4 1Pkh0 1Pkhc",
   "1Pkhf 1Pkhl 1Pkka 1Pkl7 1Pklc 1Pklp 1Pkqb 1Pkrp 1Pkrs 1Pkwu 1Pkww 1Pkxe 1Pl4d 1Pl5o 1Pl5u",
   "1Pl7r 1Pl80 1Pl82 1Pl8b 1Pl94 1Plk2 1Plv5 1Plve 1Plwf 1Plx0 1Plx7 1Plxg 1Plxj 1Plym 1Plyp",
   "1Plz5 1Plz9 1Plzl 1Pm0b 1Pm0p 1Pm0w 1Pm2i 1Pm2w 1Pm2z 1X 16N9gg 1V 1N9g4 1V 1fN10 1V 1P6x5",
   "1P6x7 2V 5X 1V 2eX 2V 2Mw_9ll 1Mw_9lm 1V 2M9l4_9l6 1V 2nM9mb_9mw 1X 5V 17X 1N6cx 2N689 1N6cy",
   "1N689 2N6d0 3N68a 6N6cm 1N6d7 3N6cj 1N6d8 aN6b2 lX 1N6dt 2N68w 2N68t 1N68s 1N68o 1N68l 1N68k",
   "1N6du 1N68i 1N68h 1N6dw 2N6dv 1N6du 2N6dr 1N6dq 1N6dp 5N6dn 1N6dk 1N6db 1N6d5 1N6d1 1N68h",
   "2N6ct 3N6bn 2N6bl 1N6bd 2N6bc 1N6b3 1N6b1 1X 1V 2P5m6 1P5q1 1P5md 1P7d2 1P5mc 1P5na 1P5mb",
   "1Pdcp 1P5of 1P5mm 1P5lx 1P7t8 1P7f6 1P5qz 1V 1wX cV gM14_3cw_15 1M14_3cy_15 1M14_3cz_15",
   "1M14_3d1_15 1M14_3d2_15 1M14_3d3_15 1M14_3d5_15 1M14_3d7_15 1M14_3d8_15 1M14_3da_15",
   "1M14_3db_15 1M14_3dc_15 1M14_3dd_15 1M14_3de_15 1M14_xz4_15 1M14_yvs_15 1M14_zc4_15",
   "1M14_108s_15 1M14_10p4_15 1M14_115g_15 1M14_1224_15 1M14_12ys_15 1M14_13f4_15 1M14_14bs_15",
   "1M14_14s4_15 1M14_158g_15 1M14_15os_15 1M14_1654_15 1M14_13p8_15 1M14_1350_13ic_15",
   "1M14_1350_16f8_15 1X 1M14_feo_15 1M14_fik_15 1M14_fex_15 1M14_h5n_15 1M14_fis_15 1M14_g31_15",
   "1M14_fer_15 1M14_g2z_15 1M14_fh9_15 1M14_gg1_15 1M14_kco_15 1M14_m7f_15 1M14_ldg_15",
   "1M14_kdk_15 1M14_ssx_15 1M14_h7j_15 1M14_k4l_15 1M14_kkq_15 1M14_kcp_15 1M14_ny6_15",
   "1M14_glp_15 1M14_mm1_15 1M14_rs1_15 1M14_nz1_15 1M14_gc4_15 1M14_fkz_15 1M14_gos_15",
   "1M14_i1y_15 1M14_nhf_15 1M14_flt_15 1M14_rt3_15 1M14_ggk_15 1M14_nzh_15 1M14_fm9_15",
   "1M14_pnu_15 1M14_po3_15 1P6x7 1P8qf 1Pa4h 1Peh4 1V 8M34_38_2t 1M1e_1d 1M1e_1e 1M1e_1f",
   "1M1e_1g 1M1e_1h 1M1e_1i 1M1e_1j 1M1e_1k 1M1e_1l 1M1f_1c 1M1f_1d 1M1f_1e 1M1f_1f 1M1f_1g",
   "1M1f_1h 1N6lc 1N6lb 2N6la 3N6l9 1N6l8 2N6l7 5Po0i 1Pox5 1Ppdg 1Pqa3 1Pqqe 1Pr6p 1Ps3c 1Pszz",
   "1Ptga 1Pucx 1Put8 1Pv9j 1Pvpu 1Pw65 1M14c8_y5c 1M13p8_13dk 1Pt9u 1V 1P5fk 1P5jf 1P5fr 1P76g",
   "1P5jk 1P63s 1P5fh 1P63o 1P5hx 1P6go 1Pada 1Pc80 1Pbe0 1Pae3 1Pitf 1P780 1Pa51 1Pal5 1Pad3",
   "1Pdyj 1P6m1 1Pcmc 1Phsb 1Pdza 1P6cc 1Pe2n 1Pd5p 1P7o8 1Pij1 1P619 1P6he 1Pbih 1Pk11 1P5m8",
   "1P647 1Pb7k 1P5eu 1P5fs 1P5et 1P8jj 1P6kr 1P6fm 1P831 1P81n 1Pdh3 1P5lg 1Phsp 1P6g5 1P7l8",
   "1M1f_1i 1M1f_1j 1M1f_1k 1M1f_1l 1M1g_1c 1M1g_1d 1M1g_1e 1M1g_1f 1M1g_1g 1M1g_1h 1M1g_1i",
   "1M1g_1j 1M1g_1k 1M1g_1l 1M1h_1c 1M1d_kco 1M1e_kco 1M1f_kco 1M1g_kco 1M1h_kco 1M1i_kco",
   "1M1j_kco 1M1k_kco 1M1l_kco 1M1d_1c_kco 1M1d_1d_kco 1M1d_1e_kco 1M2w_2v 1M2t_36_2v 1M2t_3a",
   "1M30_38_2s 1Nfi 1Nfh 1Nfg 1Nff 1Nfe 2Nfd 1Nfc 1Nfb 1Nfa 1Nf9 1Nf8 1Nf7 1Nf6 1Nf5 1Nf4 1Nf3",
   "1Nf1 1Nf0 1Nez 1Ney 6New 1Neu 1Nes 1Neq 1Neo 5Nen 1Nem 1Nel 6Nek 4Mfl0_gp8 1M9lu_9n5_9oc_9mw",
   "1M9lu_9nv_9n9_9lt 1M9lu_9o3_9ne_9lu 1M9lu_9oc_9nv 1M9lw_9mz_9o3_9m8 1M9lw_9o3_9mp",
   "1M9ly_9m1_9o3 1M9m0_9mh_9m7_9oc_9mx 1M9m0_9oc_9m3_9oc 1M9m2_9o3_9mh 1M9m2_9oc_9nk",
   "1M9m3_9lw_9nu 1M9m3_9nt_9mr_9mw 1M9m3_9nx_9nu_9oc 1M9m4_9nx_9o3 1M9m4_9o3_9ni 1M9m6_9m4",
   "1M9m6_9mz_9oc 1M9m5_9np_9nu_9oc 1M9m6_9nv_9mo_9oc 1M9m5_9nx 1M9m5_9nx_9m8_9nt_9nk",
   "1M9m5_9nx_9nl_9oc_9mw_9nv 1M9m5_9nx_9nz_9mr_9mw 1M9m8_9nt_9nk 1M9m8_9nt_9nk_9mw_9o3",
   "1M9m7_9nv_9mk_9lw_9nx 1M9m7_9nx_9oc_9n1 1M9m9_9oc_9mh 1M9mb_9nv_9my 1M9mb_9oc_9nh",
   "1M9md_9lw_9m7_9nv 1M9md_9o3_9mp_9oc_9nk 1M9mf_9nu_9o3_9m8 1M9mj_9o3_9mp 1M9mj_9o3_9mw",
   "1M9mo_9oc_9mh 1M9mv_9mf 1M9mx_9nv 1M9mw_9o3 1M9my_9n2 1M9n2_9mr_9mw 1M9n3_9lw_9ms",
   "1M9n5_9oc_9mj_9o3_9mw 1M9n5_9oc_9ms 1M9n4_9oc_9nw_9nv 1M9n8_9lu_9mh_9mw_9nv 1M9n8_9m7_9nv",
   "1M9n8_9mb 1M9n7_9nv 1M9n9_9lt_9nt_9mr_9mx 1M9n9_9lv_9oc_9mw 1M9na_9mr_9mf_9lz_9nv",
   "1M9n9_9nt_9o3 1M9nc_9m7_9mn_9oc_9nv 1M9ne_9ml 1M9ne_9mz_9n6 1M9nc_9nv_9ms 1M9ne_9o3_9mh",
   "1M9ne_9oc_9mg 1M9nd_9oc_9mn 1M9nh_9lw_9o3_9mw 1M9ng_9nv_9mw 1M9nf_9o3 1M9nh_9o3_9mx",
   "1M9nf_9oc_9nv 1M9nf_9oc_9o3 1M9ni_9lw_9m7_9nx 1M9ni_9lw_9nv 1M9ni_9mr_9n3 1M9ni_9nv_9m7",
   "1M9ni_9o3_9mf_9nr_9o3 1M9nj_9m7_9nx_9o3 1M9nj_9nu 1M9nj_9nu_9n4_9oc_9nv 1M9nl_9m4",
   "1M9nl_9m4_9mw_9o3 1M9nl_9oc_9mw_9nv 1M9no_9oc_9mx 1M9no_9oc_9nv 1M9nq_9lu_9o3",
   "1M9nu_9mr_9mw_9nv 1M9nu_9nt 1M9nv_9n8_9oc 1M9nv_9oc_9na_9nv 1M9nw_9nk 1M9nw_9o3_9mw_9ma_9o3",
   "1M9nz_9mr_9mw 1M1c_m9l 1M1d_m9l 1M1e_m9l 1M1f_m9l 1M1g_m9l 1M1h_m9l 1M1i_m9l 1M1j_m9l",
   "1M1k_m9l 1M1l_m9l 1M1d_1c_m9l 1M1d_1d_m9l 1M1d_1e_m9l 1M1d_1f_m9l 1M1d_1g_m9l 1M1d_1h_m9l",
   "1M1d_1i_m9l 1M1d_1j_m9l 1M1d_1k_m9l 1M1d_1l_m9l 1M1e_1c_m9l 1M1e_1d_m9l 1M1e_1e_m9l",
   "1M1e_1f_m9l 1M1e_1g_m9l 1M2w_34_2p 1M2s_2p 1M2p_39 1M2q_2p_36 1M33_3a 1M34_2r 1M2s_31",
   "1M2s_31_1e 1M2s_31_1f 1M2x_39 1Minn_jdc 1Mk6l_gp8 1Mhlz_l7n 1Mk5q_lh7 1Mkkq_irz_fmi_ny6",
   "1M34_2p 1M32_2p 1Mqk_2p 1M31_2p 1M2z_2p 1M2z_2q 1M31_2q 1M2v_2q 1M2r_2p_30 1M2z_2r_2p_30",
   "1M34_2u 1M32_2u 1Mqk_2u 1Mqk_2v 1M31_2v 1M2z_2v 1M2w_3e 1M2z_2w_3e 1M31_2w_3e 1M2v_2w_3e",
   "1M38_2w_3e 1Mqk_30 1M31_30 1M2s_30 1M2z_30 1M2u_31 1M32_31 1Mqk_31 1M31_31 1M2r_31 1M2z_31",
   "1M31_31_1e 1M2r_31_1e 1M31_1e 1M2z_31_1e 1M31_31_1f 1M2r_31_1f 1M31_1f 1M2z_31_1f",
   "1M31_6qd_37 1M31_6qd_37_1e 1M34_2p 1M2z_34_2p 1M31_34_2p 1M2v_34_2p 1M36_2p_2s",
   "1M36_2p_2s_6qd_37 1M36_2p_2s_6qd_37_1e 1M34_37 1M32_37 1Mqk_37 1M31_37 1M34_3a 1M32_3a",
   "1Mqk_3a 1M31_3a 1M2z_3a 1M31_3a 1M34_3b 1M32_3b 1Mqk_3b 1M31_3b 1M2z_3b 1M31_3b 1M2z_qx",
   "1M31_qx 1X 1M2q_35 1M2r_2r 1M2r_2s 1M2r_6qd_2z_2v 1X 1M2s_2q 1M2v_3d 1M2w_2p 1M2w_34 1M2x_32",
   "1M2z_2z 1M2z_31 1M2z_38 1M30_31 1M30_32 1M30_33_2v 1M30_3c 1M31_2q 1M31_2x_30 1M31_33_30",
   "1M34_2w 1X 1M34_34_31 1M34_36 1M37_36 1M37_3a 1M3b_2q 1M3a_6qd_31 1M2p_6qd_31 1M1d_k4l",
   "1M1e_k4l 1M1f_k4l 1M1g_k4l 1M1h_k4l 1M1i_k4l 1M1j_k4l 1M1k_k4l 1M1l_k4l 1M1d_1c_k4l",
   "1M1d_1d_k4l 1M1d_1e_k4l 1M1d_1f_k4l 1M1d_1g_k4l 1M1d_1h_k4l 1M1d_1i_k4l 1M1d_1j_k4l",
   "1M1d_1k_k4l 1M1d_1l_k4l 1M1e_1c_k4l 1M1e_1d_k4l 1M1e_1e_k4l 1M1e_1f_k4l 1M1e_1g_k4l",
   "1M1e_1h_k4l 1M1e_1i_k4l 1M1e_1j_k4l 1M1e_1k_k4l 1M1e_1l_k4l 1M1f_1c_k4l 1M1f_1d_k4l",
   "1M2v_2p_30 1V m8dX 3V 1jX 9V 9oX kA 18P1 1V jA sNw2a 1Nw29 1V 2iX 8V yA cP1 1V 3A 1qN1 1V 8A",
   "4Nr9g 1A 8P1 1V 4P1 1V 1Nwmg 1V 2P1 1V 1P1 1V 3A kNwn8 1Nwnj 1Nwnf 1Nwn5 1Nwn8 1V 1Nwlu",
   "1Nwmi 1Nwlx 1Pps 1A gN1c 1Nwn7 1Nraw 1A 4X 5P1 1V 1X 1V 1X 1V 1A 4X oNx3j 1Nx3h 1Nx37 1P1 1V",
   "2Nwy9 1Nwx2 1V 1fX 3V aX 6V 1kX 8V 1yX 8V cX 6V 38X bV uX 3V 26X 1V bX 4V xX 1V 1jX 9V eX 2V",
   "aX 2V 2vX oV sX aV 6X 2V 6X 2V 6X 9V 7X 1V 7X 1V 18Ntx 1N12 1Nxdf 1Nd 1V 9Nxcs 1V 2X 4Ntzk",
   "28V 1aX 2V aX 6V 8mcX cV nX 4V 1dX 6isNlh4 1Nsul 1Nkzc 1Nldn 1Nrar 1Nxqr 1Nwm9 1Mvj0 2Nvjs",
   "1Nke1 1Nwas 1Nvk4 1Ntuf 1Npt1 1No0a 1Nmoh 1Nmdz 1Nm56 1Nkn8 1Ns9e 1Nrne 1Nqwt 1Nqbd 1Nn2z",
   "1Nkhb 1Nisp 1Nxp5 1Nwpz 1Ns2h 1Nqo3 1Nmpe 1Nhz6 1Nus1 1Nr3r 1Nms6 1Nm2o 1Ntp8 1Nnke 1Nmbs",
   "1Nuhq 1Nsuq 1Nrls 1Nqi7 1Nkm6 1Nxif 1Nx2v 1Nwup 1Ntbg 1Ns4e 1Nqoy 1Npqk 1Nnxv 1Nmr3 1Nmoq",
   "1Nl6w 1Njd2 1Niiy 1Ni0w 1Npf3 1Np8d 1Nof1 1Nn79 1Nk6z 1Nhxd 1Nlt7 1Nvoj 1Nugv 1Noo4 1Nnuv",
   "1Nqn8 1Npdp 1Nlfq 1Njf6 1Nvoy 1Nuzt 1Nsah 1Nrjn 1Nrb3 1Noio 1Nobd 1Njk6 1Nww0 1Nnuw 1Nx2w",
   "1Nx3d 1Np4q 1Noex 1Nn6v 1Njj8 1Nlp6 1Ntqk 1Nsbe 1Nlsv 1Nxt1 1Nv3s 1Nua6 1Nqfu 1Nq2a 1Nwuk",
   "1Npd5 1Nxie 1Nud9 1Nxui 1Nrrw 1Nt81 1Nojs 1Nwq0 1Nvta 1Nprg 1Nn51 1Nlvp 1Nrzq 1Nkw1 1Nru2",
   "1Ntpx 1Nnf3 1Ntlh 1Nq35 1Nxqh 1Nx73 1Nx4g 1Nsmx 1Nolw 1Nnil 1Nluz 1Nkhb 1Nwwa 1Nwn2 1Nvm6",
   "1Nuja 1Nt6m 1Nr5y 1Npcr 1Njq1 1Nisd 1Nhyp 1Nhx7 1Nwz3 1Nszp 1Ns2d 1Nkyz 1Numy 1Nu0v 1Ntxs",
   "1Ntfb 1Nrcf 1Nqx6 1Nqa3 1Np8r 1Nof6 1Nnxk 1Nl0y 1Nn1n 1Nktz 1Nk7l 1Nx39 1Nwze 1Nwkh 1Nr13",
   "1Nmam 1Nlx3 1Nul5 1Nucu 1Ntnt 1Ns1j 1Nors 1Nqia 1Nxqc 1Nw4w 1Nv5v 1Nusx 1Nuc0 1Nqgr 1Nqbp",
   "1No45 1Nnze 1Nkfx 1Nji4 1Njfv 1Nja4 1Nxm2 1Npag 1Nkjn 1Njk0 1Nu6w 1Nxtg 1Nxcx 1Nv66 1Nv3y",
   "1Nt9h 1Nse5 1Nquq 1Npz3 1Nn2e 1Nksn 1Nhtj 1Nt31 1Njo8 1Nx1a 1Nswd 1Nst2 1Nrrd 1Nrhr 1Nqf7",
   "1Nq5w 1Npk3 1Non3 1Nj8y 1Nx9g 1Ntyc 1Njmj 1Nxih 1Nuyk 1Nrn0 1Nl2l 1Nuh9 1Nu51 1Nssj 1Nqj8",
   "1Njme 1Nx4k 1Nwr3 1Nv3u 1Nt71 1Nsyb 1Nsoq 1Nrum 1Nqfy 1Nq2r 1No6l 1Nmc8 1Nmbr 1Nkkd 1Njk8",
   "1Nwx8 1Nrhu 1Nwr4 1Nqvy 1Nqc7 1Nmwm 1Njm6 1Nihn 1Ni1g 1Nswt 1Nroq 1Nnpq 1Np4c 1Np20 1Norr",
   "1Nqpm 1Nr4y 1Nlus 1Nxtp 1Nngo 1Nx51 1Nx6h 1Nuor 1Ntv3 1Noq5 1Nvb3 1Nrtz 1Nt3m 1Nl3g 1Nmgs",
   "1Njp8 1Nm7z 1Nuns 1Nxcc 1Nwgd 1V 2Nvxy 1V 1Nt5q 1V 2Nx87 1Nqng 1Npxp 1Npgc 1Npff 1Npf9 1Npe4",
   "1Njie 1Norj 1No69 1V 1Nmxa 1V 1Nlyi 1V 2Nkx9 1Nkrt 1V 3Nj7f 1Nj73 1Nj5w 1Ni9l 1Nksw 1Njnc",
   "1Nxoi 1Nxfu 1Nxd1 1Nx2i 1Nx1s 1Nwys 1Nwih 1Nwfl 1Nwcw 1Nvzt 1Nvwy 1Nv6f 1Nv66 1Nucp 1Nu6u",
   "1Nu5t 1Nu32 1Ntf6 1Ntb4 1Nt6a 1Nssf 1Nrta 1Nros 1Nrhh 1Nr16 1Nqvy 1Nqi0 1Npmi 1Nphq 1Nphg",
   "1Nphi 1Nphb 1Nph6 1Nph0 1Npfp 2Npas 1Np90 1Np06 1Nokj 1Nojz 1Noig 1Noa0 1No5y 1Nnsf 1Mprt",
   "2Nnbc 1Nmds 1Nma3 1Nm01 1Nlyi 1Nln5 1Nllp 1Nl2o 1Nkz3 1Njnp 1Njfu 1Nje7 1Nueu 1P1sw2 1Nnrp",
   "1X 2Ny16 1Nxbw 1Nxe2 1Nxrn 1Nxf3 1Nxdh 1Nx4f 1Nx31 1Nwkb 1Nwmc 1Nwkh 1Nwih 1Nw0y 1Nvyi 1Nvui",
   "1Nvu3 1Nvmm 1Nvh5 1Nur4 1Nuqy 1Numz 1Nul4 1Nucu 1Nu9l 1Nubk 1Nu7v 1Nu96 1Nu55 1Nu3c 1Nts9",
   "1Ntpu 1Ntod 1Nth6 1Nt99 1Nt4r 1Nt4o 1Nt32 1Ns9o 1Ns7w 1Nrx2 1Nrlp 1Nrm6 1Nrjs 1Nrct 1Nr3i",
   "1Npva 1Nqy1 1Nquo 1Nqra 1Nqi8 1Nqe4 1Nqco 1Nq6f 1Nq6e 1Nq1o 1Nq18 1Nq0k 1Npy7 1Npyi 1Npnj",
   "1Npa3 1Np2l 1Noxf 1Nor8 1Non0 1Nodv 1No8d 1Nnkx 1Nngl 1Nmrg 1Nmet 1Nmcx 1Nmci 1Nm4a 1Nm2q",
   "1Nm40 1Nm2j 1Nm2n 1Nm35 1Nm12 1Nlyu 1Nlo9 1Nl8q 1Nl01 1Nkrv 1Nklr 1Njt6 1Njqc 1Njn6 1Njji",
   "1Njij 1Nji8 1Njgx 1Niwr 1Ni0i 1P1njv 1P1njo 1P1ptw 1N11rp 1N10vv 1N10uz 1P1vuc 1P1xx6 1P24n0",
   "1Ni39 1Ni17 1X 12M2u_2u 1M2u_2x 1M2u_30 1M2u_2u_2x 1M2u_2u_30 1M37_38 1M37_38 1X cM12s_12u",
   "1M12s_12d 1M12s_12j 1M132_12u 1M12s_12l 1X 5M15l_14k 1V 1M16a_14n 1N1cfy 1N1cgh 1N1cgf",
   "2N1cg9 3N1cfz 1N1cfy 1N1dku 1M161_14x 1M161_14y 1M161_14s_14x 1M161_14s_14y 1M15c_14n",
   "1M15c_14o 1M15c_14s 1M15d_14s 1M15e_14s 1M15f_14s 1M15g_14s 1M15h_14s 1M15i_14s 1X 1M15k_14s",
   "1M15l_14s 1M15m_14s 1M15n_14s 1M15o_14s 1X 1M15q_14s 1X 1M15s_14s 1M15t_14s 1X 1M15v_14s",
   "1M15w_14s 1X 1M15y_14s 1M15z_14s 1M160_14s 1M161_14s 1M162_14s 1M15h_14p 1M15d_14v 1M15n_14v",
   "1M15w_14v 1M15c_15o 1M19t 2M1a3 4M1a6 4M1a8 4M1a2 4M1a7 4M1a1 4M1b8 4M1ba 4M1ac 4M1ab 4M1ae",
   "4M1af 4M1al 2M1ak 2M1am 2M1ag 2M1aw 2M1ap 2M1bd 4M1bj 4M1bn 4M1bl 4M1bu 2M1bv 4M1c0 2M1c1",
   "4M1by 4M1ci 2M1cj 2V hX gM1bh 4M1c7 2M1c6 2M1c8 2M1c7_19w 1M1cb 2M1c5 2M1c9 2M1cg 4M18p",
   "2M17q_17r 1M17q_17r 1M17q_1cl 1M17q_1cl 1M17q_18o 1M17q_18o 1M17q_1c7 1M17q_1c7 1M17q_1c6",
   "1M17q_1c6 1M17q_1c8 1M17q_1c8 1M17q_1cg 1M17q_1cg 1M17q_1cg 1M17q_18p 1M17q_18p 1M17q_18p",
   "1M1cc 4M17q_17w 1M17q_17x 1M17q_18l 1M17q_18p 1M17q_18q 1M17s_17w 1M17s_17x 1M17s_17y",
   "1M17s_18l 1M17s_18p 1M17s_18q 1M17u_17w 1M17u_17x 1M17u_17y 1M17u_18l 1M17u_18p 1M17u_18q",
   "1M17v_17w 1M17v_18l 1M17v_18p 1M17v_18q 1M17w_17x 1M17w_18l 1M17x_17w 1M17x_18l 1M17y_17w",
   "1M17y_17x 1M17y_18l 1M183_17w 1M183_17x 1M183_17y 1M183_18l 1M185_17x 1M185_18l 1M186_17w",
   "1M186_17x 1M186_17y 1M186_18l 1M187_17x 1M187_18l 1M188_18l 1M189_17w 1M189_18l 1M18a_17w",
   "1M18a_18l 1M18h_17w 1M18h_17x 1M18h_17y 1M18h_18l 1M18h_18p 1M18h_18q 1M18i_17x 1M18i_18l",
   "1M18i_18p 1M18i_18q 1M18j_17r 1M18j_17w 1M18j_17x 1M18j_17y 1M18j_18k 1M18j_18l 1M18j_18p",
   "1M18j_18q 1M18k_17w 1M18k_17x 1M18k_17y 1M18k_18l 1M18k_18p 1M18k_18q 1M18l_17w 1M18l_17x",
   "1M18l_17y 1M18l_18l 1M18l_18p 1M18l_18q 1M18m_17w 1M18m_17x 1M18m_17y 1M18m_18l 1M18m_18p",
   "1M18m_18q 1M18n_17w 1M18n_18l 1M18n_18p 1M18n_18q 1M18q_17w 1M18q_17x 1M18q_17y 1M18q_18l",
   "1M18q_18p 1M18q_18q 1M180_19s 1M181_19s 1M18p_19s 1Mw_18s_18x 1Mw_18t_18x 1Mw_18u_18x",
   "1Mw_18v_18x 1Mw_18w_18x 1Mw_18x_19s 1M17q_181 1M17q_182 1M17q_18l 1M17q_18m 1M17q_18p",
   "1M17q_18q 1M17s_181 1M17s_182 1M17s_18l 1M17s_18m 1M17s_18p 1M17s_18q 1M17u_181 1M17u_182",
   "1M17u_18l 1M17u_18m 1M17u_18p 1M17u_18q 1M17v_181 1M17v_182 1M17v_18l 1M17v_18m 1M17v_18p",
   "1M17v_18q 1M18h_18p 1M18h_18q 1M18i_18p 1M18i_18q 1M18j_17r 1M18j_18k 1M18j_18l 1M18j_18p",
   "1M18j_18q 1M18k_18l 1M18k_18p 1M18k_18q 1M18l_17r 1M18l_18l 1M18m_181 1M18m_182 1M18m_18l",
   "1M18m_18m 1M18m_18p 1M18m_18q 1M18p_19s 1M18q_181 1M18q_182 1M18q_18l 1M18q_18m 1M18q_18p",
   "1M18q_18q 1M17q_17w 1M17q_17x 1M17q_17y 1M17q_18l 1M17q_18n 1M17s_17w 1M17s_17x 1M17s_17y",
   "1M17s_18l 1M17s_18n 1M17u_17w 1M17u_17x 1M17u_17y 1M17u_18l 1M17u_18n 1M17v_18l 1M17w_17x",
   "1M17w_18l 1M17x_17w 1M17x_18l 1M17y_17w 1M17y_18l 1M183_17w 1M183_17x 1M183_17y 1M183_18l",
   "1M185_17x 1M185_17y 1M185_18l 1M186_17w 1M186_17x 1M186_17y 1M186_18l 1M187_17x 1M188_18l",
   "1M189_17w 1M189_18l 1M18a_17w 1M18a_18l 1M18h_17w 1M18h_17x 1M18h_17y 1M18h_18l 1M18i_17x",
   "1M18i_18l 1M18j_17w 1M18j_17x 1M18j_17y 1M18j_18k 1M18j_18l 1M18k_17w 1M18k_17x 1M18k_17y",
   "1M18k_18l 1M18k_18n 1M18l_17w 1M18l_17x 1M18l_17y 1M18l_18l 1M18m_17w 1M18m_17x 1M18m_17y",
   "1M18m_18l 1M18m_18n 1M18n_17w 1M18n_18l 1M18n_19s 1M18q_17w 1M18q_17x 1M18q_17y 1M18q_18l",
   "1M18q_18n 1M17q_18l 1M17q_18n 1M17s_18l 1M17s_18n 1M17u_18l 1M17u_18n 1M17v_18l 1M17v_18n",
   "1M183_18l 1M183_18n 1M184_18l 1M184_18n 1M18j_18k 1M18j_18l 1M18k_18l 1M18m_18l 1M18m_18n",
   "1M18q_18l 1M18q_18n 1M18g_18u_18x 1M18g_18v_18x 1M18g_18w_18x 1M187_18p 1M187_18q 1M189_18p",
   "1M189_18q 1M18a_18p 1M18a_18q 1M183_18p 1M183_18q 1M184_18p 1M184_18q 1M17x_18p 1M17x_18q",
   "1M17w_18p 1M17w_18q 1M17y_18p 1M17y_18q 1M185_18p 1M185_18q 1M186_18p 1M186_18q 1M184_17w",
   "1M184_17x 1M184_17y 1M184_18l 1M184_181 1M183_181 1M185_181 1M186_181 1M187_18p 1M187_18q",
   "1M189_18p 1M189_18q 1M18a_18p 1M18a_18q 1M183_18p 1M183_18q 1M184_18p 1M184_18q 1M17x_18p",
   "1M17x_18q 1M17w_18p 1M17w_18q 1M17y_18p 1M17y_18q 1M185_18p 1M185_18q 1M186_18p 1M186_18q",
   "1M184_17w 1M184_17x 1M184_17y 1M184_18l 1M184_181 1M183_181 1M185_181 1M186_181 1M184_17w",
   "1M184_17x 1M184_17y 1M184_18l 1M183_18n 1M184_18n 1M187_18l 1M183_17w 1M183_17x 1M183_17y",
   "1M184_17w 1M184_17x 1M184_17y 1M187_18l 1M188_18l 1M17r_18r 1M17r_18r 1V iM17u_17w_18l",
   "1M17u_17x_17w 1M17u_17x_17w 1M17u_17x_18l 1M17u_17y_18l 1M17u_18l_17w 1M17u_18l_17x",
   "1M17u_18l_17y 1M17w_18l_17x 1M17w_18l_17x 1M17x_18l_18q 1M17x_18l_18p 1M183_17x_17w",
   "1M183_17w_17x 1M183_17w_18p 1M183_18l_17x 1M183_18l_17x 1M183_18l_17w 1M183_18l_18l",
   "1M183_18l_18l 1M185_17x_17x 1M185_17x_17x 1M185_18l_18l 1M184_17x_18l 1M184_17x_18l",
   "1M184_17w_18q 1M184_18l_17y 1M184_18l_17y 1M184_18l_18l 1M184_18l_18l 1M186_17x_18p",
   "1M186_17y_18l 1M186_17y_18l 1M187_18l_17x 1M187_18l_17x 1M187_18l_18l 1M187_18l_18q",
   "1M189_17w_18l 1M189_18l_18l 1M189_18l_18l 1M189_18l_18p 1M18a_18l_18l 1M18a_18l_18q",
   "1M18a_18l_18p 1M18h_17y_18l 1M18h_17y_18l 1M18i_18l_17x 1M18i_18l_18l 1M18k_17x_18l",
   "1M18k_17x_18q 1M18k_17x_18p 1M18k_17w_17w 1M18k_17w_17w 1M18k_17y_18l 1M18k_17y_18l",
   "1M18k_18l_17x 1M18k_18l_17x 1M18l_17x_17w 1M18l_17x_18l 1M18l_17x_18q 1M18l_17w_17x",
   "1M18l_17w_18l 1M18l_17y_17w 1M18l_17y_18l 1X 2M18l_17w_17y 1M18n_18l_17w 1M18n_18l_18l",
   "1M18m_17x_18l 1M18m_17x_18p 1M18m_17w_18l 1M18m_17w_18l 1M18m_17w_18p 1M18m_18l_18q",
   "1M18m_18l_18p 1M18q_18l_18l 1M18q_18l_18l 1M17s_17y_18q 1M17u_17w_18q 1M17u_17w_18p",
   "1M17u_17y_18q 1M17u_17y_18p 1M17u_18l_18q 1M17u_18l_18p 1M17w_18l_18q 1M17w_17x_18p",
   "1M17w_18l_18p 1M183_17y_18p 1M185_17x_18q 1M184_17x_18q 1M186_17x_18q 1M18k_17w_18q",
   "1M18k_18l_18q 1M18q_17x_18q 1M18q_17w_18q 1M18q_18l_18q 1M18l_18l_18q 1M18i_18l_18q",
   "1M18m_17x_18q 1M18i_18l_17x 1M18k_17x_18l 1M189_18l_18q 1M18j_18l_18q 1M18m_17w_17x",
   "1M18l_17y_18q 1M18k_17w_18l 1M18j_18l_18l 1M18k_17w_18l 1M18m_17w_17x 1M17w_17x_18q",
   "1M17x_17w_18q 1M18l_17w_18q 1M18h_18l_18q 1M17s_17x_18q 1M18j_18l_18l 1M189_17w_18l",
   "1M185_18l_18l 1M183_17y_18q 1M18m_17w_18q 1X 7V 1X wM185_18k_1ci 1M18i_18k_1ci",
   "1M17r_18k_18k_18n 1M17r_18j_17s_181 1M18l_17x_18l_17z 1M185_18k_189_18l 1M181_183_18o_18k",
   "1M189_18k_18q_18n 1M18o_183_18k_18l 1M185_18k_18p",
   "1M185_18k_18p_w_17r_18k_18k_18n_w_189_18k_18q_18n_w_18o_183_18k_18l",
   "1M17w_18k_w_17w_18k_17r_18k_18n 1M181_1cc_17r_18k 1V 3I gN1e5g 1N14pc 1X 1N1e55 2N1e5w",
   "1N1e53 1N14ox 2X 7V gX 1N17vh 1N17vj 1M2n 2N1e6l 2N1e4c 1N1e4b 1N14px 2N14q3 2N14qb 2N14qf",
   "2N14qd 4V 2N1e5o 1N1e5n 1Mw_lh 1Mw_lh 1Mw_lh 1Mw_lh 1M2n 3N1e78 1N14r4 1X 2N1e6x 1N1e6z",
   "1N1e6v 1N1e7q 1N17wk 1N1e7l 2N1e5c 1N1e5b 1N14qx 2N1e7w 1N1e7u 1N1e7r 2N1e7q 1N1e7c 1N1e7b",
   "1N1e7d 1X 1N1e6k 1N1e85 2N1e7f 1X 4Mw_18r 1M18g_18r 1Mw_18s 1V 1Mw_18t 1X 1Mw_18u 1M18g_18u",
   "1Mw_18v 1M18g_18v 1Mw_18w 1M18g_18w 1Mw_18x 1M18g_18x 1Mw_18y 1M18g_18y 1N1d27 2N1d28 2N1d29",
   "2N1d2a 2N1d2b 2M17q 3M17r 2M17s 4M17t 2M17u 4M17v 4M17w 4M17x 4M17y 4M17z 2M180 2M181 2M182",
   "2M183 4M184 4M185 4M186 4M187 4M188 4M189 4M18a 4M18h 4M18i 4M18j 4M18k 4M18l 4M18m 4M18n",
   "4M18o 2M18p 2M18q 4M18k_17m 1M18k_17m 1M18k_17n 1M18k_17n 1M18k_17p 1M18k_17p 1M18k_17r",
   "1M18k_17r 1X 2I 1X 1N1ecg wN1ebk qN1ecg 10N168q 2N1eer 1N14ye 2N14yr 1N14ru 1N14s4 1N14ue",
   "1N14ud 1N14uc 1N14ub 1N14ua 1N14sp 1N14so 1N14sn 1N14to 1N14s4 1N14un 1N14um 1N14ul 1N14uk",
   "1N14uj 2N14ui 1N14uh 1N14ug 1N14uf 1N14ue 1N14ud 1N14uc 1N14ub 1N14ua 1N14u9 1N14u8 1N14u6",
   "1N14u5 1N14u4 1N14u3 6N14u1 1N14tz 1N14tx 1N14tv 1N14tt 5N14ts 1N14tr 1N14tq 6N14tp 1N14tm",
   "1N14w5 2X 1N1b4x 2N1b09 1N1b4y 1N1b09 2N1b50 3N1b0a 6N1b4m 1N1b57 3N1b4j 1N1b58 aX 3N1b35 6X",
   "2N1b37 6X 2N1b39 6X 2N1b3b 3X 3N1ef2 2N1eeu 1Mw_lg 1N1ef2 1N1ef4 1N183h 1X 1N178m 1N17x5",
   "4N174d 1N1737 1X hV cX 1V qX 1V jX 1V 2X 1V fX 2V eX yV 3fX 5V 3X 4V 19X 3V 2gX 1V dX 3V 1X",
   "1bV 1aX 3mV tX 3V 1dX fV sX 4V 10X 9V uX 5V 17X 5V uX 1V 11X 4V eX 16P14 14V 3aX 2V aX 6P14",
   "10X 4V 10X 4V 14X 8V 1gX bV 1P13 bX 1P13 fX 1P13 7X 1P13 2X 1V bX 1V fX 1V 7X 1V 2X 1vV 8nX",
   "9V mX aV 8X oV 1N1fht 2N1fvh 1N1fjf 1N1fle 1X 1N1fj8 1Ni76 1N1fj8 1N1fja 1N1flh 2N1a7w",
   "1N1fli 1N1fld 1N1fjb 1N1fl9 1N1flc 1N1flf 1N1fjt 1N1fu6 1N1fju 1N1flc 1N1fkk 1N1fjj 2N1flb",
   "1P16js 1Niz3 1N1flc 1P16jq 1N1fki 1P16jp 1N1fvu 1N1fl9 2N1fzo 1N1fl8 1P16jl 1N1fl7 2N1fl6",
   "1N1fk3 1N1fk6 1Ni86 1N1fk7 1N1fl3 1N17b3 1X 1N1fkz 1N1fki 2N1fkt 1N1fqu 3P16j5 1P16jo 1X 1xV",
   "6X 2V 1X 1V 18X 1V 2X 3V 1X 2V nX 1V 20X 8V 9X 1cV jX 1V 2X 5V xX 3V rX 5V 1X 1sV 1kX 4V kX",
   "2V 1eX 1V 2X 5V 8X 1V 3X 1V tX 2V 3X 4V aX 7V 9X 7V 1sX wV 13X 4V cX 9V 1iX 3V tX 2V rX 5V",
   "qX 7V 4X cV 7X 28V 21X 1jP1s 1fX dV 1fX 7V 1aX 8V aX 86V vX 1V 16X 1V 3X 2V 2X 23V 17X 8V",
   "16X mV qX 12V sX kV nX 9V 26X 4V 10X 9V 1qX 1V 5X dV pX 7V aX 6V 1hX 1V iX 8V 13X 9V 2oX 1V",
   "kX bV iX 1V 1bX 1qV 7X 1V 1X 1V 4X 1V fX 1V bX 6V 1nX 5V aX 6V 4X 1V 8X 2V 2X 2V mX 1V 7X 1V",
   "2X 1V 5X 1V aX 2V 2X 2V 3X 2V 1X 6V 1X 5V 7X 2V 7X 3V 5X 3vV 2kX 1V 5X uV 20X 8V aX 4mV 1iX",
   "2V 12X yV 1xX bV aX 6V dX jV 1mX 6V aX 1iV rX 2V fX 4V nX 55V 1oX 2sPw wV 1fX cV 8X 2V 1X 2V",
   "8X 1V 2X 1V uX 1V 2X 2V cX 9V aX 1yV 8X 2V 1aX 2V bX rV 20X 8V 2bX dV 21X 7V aX 6uV 9X 1V",
   "19X 1V eX aV tX 3V wX 2V mX 1V eX 21V 7X 1V 2X 1V 18X 3V 1X 1V 2X 1V 9X 8V aX 6V 6X 1V 2X 1V",
   "11X 1V 2X 1V 6X 7V aX 8mV pX 7V hX 1V 15X 3V sX 2eV 1X fV 1eX dV pnX 2uV 33X 1V 5X bV 5gX",
   "218V 2rX dV tsX gV mX 33eV g7X 6ntV ftX 7V vX 1V aX 4V 29X 1V aX 6V uX 2V 6X aV 1yX aV aX 1V",
   "7X 1V lX 5V jX j4Pw wV 1nX 2tV 23X 4V 1lX 7V hX 1sV 5X bV 2X eV 4qgX 8V yeX 16V 9X 6w7V 4X",
   "1V 7X 1V 2X 1V 83X fV 1X tV 3X 2V 1X eV 4X 8V b0X 1s4V 2zX 5V dX 3V 9X 7V aX 2V 4I 4X 3mkV",
   "1aX 2V nX 9V 38X 1oV 6uX aV 13X 2V 1hM2jx3_2jxh 1M2jx4_2jxh 1M2jx4_2jxh_2jxq",
   "1M2jx4_2jxh_2jxr 1M2jx4_2jxh_2jxs 1M2jx4_2jxh_2jxt 1M2jx4_2jxh_2jxu 1V eX 8V 1sM2jzt_2jxh",
   "1M2jzu_2jxh 1M2jzt_2jxh_2jxq 1M2jzu_2jxh_2jxq 1M2jzt_2jxh_2jxr 1M2jzu_2jxh_2jxr 1V 16X lV",
   "1yX 3eV kX cV kX cV 2fX 9V pX 3rN2kdb qN2ke1 qN2ker qN2kfh 7X 1N2kfh iN2kg7 qN2kgx qN2khn 1X",
   "1N2khn 2X 2N2khn 1X 2N2khn 2X 2N2khn 4X 1N2khn 8N2kid 4X 1N2kid 1X 1N2kid 7X 1N2kid bN2kj3",
   "qN2kjt qN2kkj 2X 1N2kkj 4X 2N2kkj 8X 1N2kkj 7X 1N2kl9 qN2klz 2X 1N2klz 4X 1N2klz 5X 1N2klz",
   "1X 3N2klz 7X 1N2kmp qN2knf qN2ko5 qN2kov qN2kpl qN2kqb qN2kr1 qN2krr qN2ksh qN2kt7 qN2ktx",
   "qN2kun qN2kvd qN2kqb 1N2kj2 1X 2N2k8n hN2k8x 1N2k8n 7N2e9m 1N2k9d hMqr 2N2k9d 6N2eah 1N2k9z",
   "1N2k9x 1N2k9w 1N2k9l 1N2k9r 1N2k9t 1N2ka9 hN2kaj 1N2ka9 7N2eb8 1N2kaz hMqr 2N2kaz 6N2ec3",
   "1N2kbl 1N2kbj 1N2kbi 1N2kb7 1N2kbd 1N2kbf 1N2kbv hN2kc5 1N2kbv 7N2ecu 1N2kcl hMqr 2N2kcl",
   "6N2edp 1N2kd7 1N2kd5 1N2kd4 1N2kct 1N2kcz 1N2kd1 1N2kdh hN2kdr 1N2kdh 7N2eeg 1N2ke7 hMqr",
   "2N2ke7 6N2efb 1N2ket 1N2ker 1N2keq 1N2kef 1N2kel 1N2ken 1N2kf3 hN2kfd 1N2kf3 7N2eg2 1N2kft",
   "hMqr 2N2kft 6N2egx 1N2kgf 1N2kgd 1N2kgc 1N2kg1 1N2kg7 1N2kg9 1Mrh 2X 2N2l5q aN2l60 aN2l6a",
   "aN2l6k aN2l6u aV i4X fV 5X 1V fX uoV vX 6V 6X 5xV 7X 1V hX 2V 7X 1V 2X 1V 5X 5N2m0w 9N2m0v",
   "3N2m0u bN2m0s 1N2m0r 2N1pz5 1N2lwy 1N2m0m 1N2m0l 1N2lwl 1N2ly8 1N2lxd 1N2m1t 9N2m1s 2N2m1q",
   "2N2m1p 1N2m1o 6N2m1n 2N2lzq 1N2m1e 1N2m1g 1N2m17 1N2lz4 1N1q1n 1N2lz0 1X xV 1X 34V 19X 3V eX",
   "2V aX 4V 2X 8wV vX hV 1mX 5V 1X cwV 16X kmV 7X 1V 4X 1V 2X 1V fX 1V 5hX 2V gX 15Py yV 16X 4V",
   "aX 4V 2X ltV 1wX 24V 1pX 5eN2od5 2N2od2 1N2od0 1X 1N2ocd 1N2od0 1N2od6 1N2ocx 1N2ocf 1N2ocn",
   "4N2od7 1N2od2 1N2ocv 1N2od8 1N2ocw 1N2ode 1N2odc 1N2odn 2N2odl 1N2odk 1N2odf 1N2ode 1N2odd",
   "1N2oby 1N2o9v 1N2oal 1N2oc0 1X 1N2oe1 1N2ody 1X 1N2od9 1X 2N2oe2 1X 1N2odb 1N2odj 4N2oe3",
   "1N2ody 1N2odr 1N2oe4 1N2ods 1X 1N2oe8 1N2oej 2N2oeh 1X 1N2oeb 1X 1N2oe9 1X 6N2oeu 1X 4N2oey",
   "1X 1N2oe7 1X 1N2oef 1X 1N2oef 1N2oez 1N2oeu 1X 1N2of0 1N2oeo 1X 1N2of4 1X 2N2ofd 1X 1N2of7",
   "1X 1N2of5 1X 1N2obn 1X 1N2ods 1X 1N2oft 1N2ofq 1X 1N2of1 1X 2N2ofu 1N2ofl 1N2of3 1N2ofb 1X",
   "1N2ofb 2N2ofv 1N2ofq 1N2ofj 1N2ofw 1N2ofk 1X 1N2og0 1N2ogb 2N2og9 1X 1N2og3 1N2og2 1N2og1",
   "1N2oem 1X 1N2od9 1X 1N2ogp 2N2ogm 1N2ogk 1N2ofx 2N2ogk 1N2ogq 1N2ogh 1N2ofz 1X 1N2og7 3N2ogr",
   "1N2ogm 1N2ogf 1N2ogs 1N2ogg 1N2ogy 1N2ogw 1N2oh7 2N2oh5 1N2oh4 1N2ogz 1N2ogy 1N2ogx 1X",
   "5N2ohl 1N2ohi 1N2ohg 1X 1N2ogt 1N2ohg 1N2ohm 1N2ohd 1N2ogv 1X 1N2oh3 3N2ohn 1N2ohi 1N2ohb",
   "1N2oho 1N2ohc 1N2ohu 1N2ohs 1N2oi3 2N2oi1 1N2oi0 1N2ohv 1N2ohu 1N2oht 1X 1gV 2X 7iV 18X 4V",
   "2sX cV fX 2V fX 1V fX 1V 11X bM1c_18 1M1d_18 1M1e_18 1M1f_18 1M1g_18 1M1h_18 1M1i_18 1M1j_18",
   "1M1k_18 1M1l_18 1V 5M14_2p_15 1M14_2q_15 1M14_2r_15 1M14_2s_15 1M14_2t_15 1M14_2u_15",
   "1M14_2v_15 1M14_2w_15 1M14_2x_15 1M14_2y_15 1M14_2z_15 1M14_30_15 1M14_31_15 1M14_32_15",
   "1M14_33_15 1M14_34_15 1M14_35_15 1M14_36_15 1M14_37_15 1M14_38_15 1M14_39_15 1M14_3a_15",
   "1M14_3b_15 1M14_3c_15 1M14_3d_15 1M14_3e_15 1M9hw_37_9hx 1N2q4o 1N2q4a 1M2r_2s 1M3b_3e 1V",
   "1N2q4v qM2w_3a 1M31_3a 1M37_2s 1M37_37 1M34_34_3a 1M3b_2r 1V qM31_2r 1M31_2s 1M31_36 1V",
   "zM2s_2y 1V tX 1kV qM9kr_9jf 1M9mb_9mb 1N2gr1 1X dN26yt 1N28ca 1N29ty 1N2gr0 1N2avc 1N28sb",
   "1N1z5f 1N28ry 1N2aus 1N267t 1N241l 1N26bm 1N2a4v 1N27ip 1N2aa9 1N26b3 1N2a6b 1N21nj 1N239f",
   "1N1ym2 1N28tw 1N29rg 1N24gi 1N26xe 1N26s3 1N2azt 1N2azl 1N1xwh 1N27uu 1N2ayo 1N29tn 1N26ug",
   "1N1ygw 1N26zi 1N22ep 1N227t 1N29t8 1N24l1 1N2625 1N2627 1N239h 1N2a4n 1N29hg 1N1xpq 1X",
   "4M9hw_kdo_9hx 1M9hw_fex_9hx 1M9hw_fik_9hx 1M9hw_i2x_9hx 1M9hw_m9l_9hx 1M9hw_jf7_9hx",
   "1M9hw_nh3_9hx 1M9hw_gd9_9hx 1M9hw_k0n_9hx 1X 7N27jt 1N29uq 1X eV 6X 4aV rcX 4V hX 3V dX 3V",
   "3bX 4V 2nX 6V cX 4V 1X fV cX 4V 1kX 8V aX 6V 14X 8V uX 2V 2X 26V 9gX cV eX 2V dX 3V 9X 7V",
   "1aX 1V 7X 8V eX 4V 9X 7V 9X 7V 43X 1V 1jX 11N2sao aX smV wyoX wV 37eX 6V 66X 2V 4g2X eV 5rlX",
   "fV haX 1wiN3qo3 1N3qo9 1N3qo1 1N1crl 1N3qg4 1N3qdz 1N3qdn 1N3qbp 1N3q8e 1N3q7k 1N3q5f 1N3q64",
   "1N3vqm 1N1brn 1N3q2p 1N3q2j 1N3q24 1N3q1m 1N1bzq 1N3vq2 1N3q25 1N3q14 1N1byj 1N3q0w 1N3q0k",
   "1N3qkt 1N3q0e 1N3q06 1Nk71 1N3pyg 1N3py3 1N3vpc 1N3pwl 1N3pwb 1N3pv4 1N3pv0 1N3vnz 1N3psu",
   "1N3pst 1N3ps3 1N3pri 1N3pr8 2N3pqs 1N3ppf 1N3pp8 1N3pp0 1N3poc 1N3po3 1Mghr 3N1b0o 1N3jyd",
   "1N3pm4 1N3plk 1N1as5 1N3pla 1N3pl5 1N3pkl 1N3pge 1N3pj9 1N3piu 1N3phz 1N3pge 1N3pe3 1N3pde",
   "1N3pbk 1N3pb5 1Mgw4 2N3p9q 1N3p99 1N3p92 1N3p8o 1N3oz9 1N3p6u 1N3oza 1N3p4t 1N3p3v 1N3pzd",
   "1N3omb 1N3ouc 1N3otb 1N3osn 1N3owa 1N3oro 1N3orq 1N3ooc 1N18xh 1N3omg 1N3omc 1N3oly 1N3olf",
   "1N3ol8 1N3ojh 1N18l4 1N18jb 1N3ofq 1N3oeg 1N3oe5 1N3ogd 1N3ocg 1N3vcp 1X 1N3o81 1Mi0u 2N17z8",
   "1N3o2y 1N3o2e 1N3o20 1N3o1p 1N17q1 1N3o1f 1N3o19 1X 1N3o0j 1N3v91 1N3nyv 1N3nyi 1N3nw9",
   "1N3nxp 1N176f 1N3nsp 1N176f 1N3nrk 1N3nro 1N3nr8 1N3nog 2N3v4k 1N3nnr 1N3nml 1N3nm1 1N3nku",
   "1N3v3a 1N16h2 1N3v2m 1N3niz 1N3nix 1N3niv 1N3nic 1Ngsd 1N3ngy 1M3035 2N3gk2 1Misi 2N3v0v",
   "1N1333 1Ntry 1N3nef 1N3ne7 1N3v08 1N3ncy 1N3nbk 1N3nbb 1N3nae 1N3n6n 1N3uxz 1N3uyu 1N3n67",
   "1N15g0 1N3n4u 1N3n1a 1N3n17 1N3n16 1N3n19 1N3n00 1N3mzh 1N3myi 1N3myx 1N3myn 1N3mxd 1N3mwu",
   "1N3mwr 1N3mw2 1N3mvs 1N3mtz 1N3mro 1N3mqq 1N3mnb 1N14mk 1N3mnw 1N3mpq 1N3mmr 1N3mm1 1N3mjd",
   "1N14gd 1N3mhp 1N3mkb 1N3ml4 1N3us4 1N3mfu 1N3mfa 1N3meg 1N3mfj 1N3uqj 1N3m9l 1N3m8t 1N13nk",
   "1N3m5k 1N3lxw 1N3m2s 1N3ulx 1N3m0u 1N3umg 1N3unh 1N3q68 1N3q66 1N3lxw 1N3m0p 1N3gvd 1N3svy",
   "1N3lxd 1N3lxa 1N3lx5 1N3lvh 1N3lvt 1N12xm 1N3ul1 1N3lr9 1N3luj 1N3lov 1N3lnh 1N12t2 1N3lna",
   "1N3lqe 1N3ljm 1N3uiy 1N3lie 1N3lfq 1N3lds 1N3l8j 1N12dl 1N3l76 1N3ufq 1N3l5a 1N11zd 1N3l3x",
   "1N3uec 1N3l35 1N3l1x 1N3l17 2N11m2 1N17fx 1N11j3 1N3kx8 1N116n 1N3ku5 1N3kts 1N3kwn 1N3krt",
   "1N3kqq 1N3kp6 1N3kqp 1N3kpm 1N3kp8 1N3kow 1N1148 1N3kr7 1N3kk9 1N3kij 1N3u8n 1N3kg0 1N3kg5",
   "1N10sc 1N3klx 1N3kbl 1N10oi 1N10n7 1N3k98 1N3k62 1N3k6u 1N3k6y 1N3u68 1N3k5p 1N3k4b 1N3k4i",
   "1N3k31 1N1c6u 1N3jyv 1N103e 1N3jwi 1X 1N3jso 1N3jsc 1N3jrm 1Nzdn 1N3jqc 1N3jps 1Nz5d 1Nyz7",
   "1N3jji 1N3jj2 1N3tz2 1N3jie 1Mce0 2N3jdz 1N3jdf 1N3jcv 1N3jcc 1N3jag 1N3tw8 1N3j80 1Ny67",
   "1N3j7c 1Ny3p 1N3j60 1N16l6 1N3j1m 1Nxi2 1Nxhg 1Nxdl 1N3tqa 1N3tpz 1N3ivg 1Nx8u 1Nx8w 1Nx7u",
   "1Nx75 1N3iuf 2N3iug 1N3ita 1N3tow 1N3irj 1N3tol 1N3tme 1Nwmo 1N3im8 1N3ikj 1N3iis 1N3tke",
   "1Nw8c 1N3if1 1Nw56 1Nw40 1N3idj 1N3ib0 1N3tih 1N3i8p 1N3i8g 1N3i8c 1Nvkw 1M3b1j 2X 1N3tcu",
   "1Nv5i 1N3hy4 1N3hy2 1N3tbx 1Nuzp 1N3hqs 1N3t8n 1N3hq8 1N3hqe 1N3hpm 1Nued 1N3hmx 1N3t64",
   "1N3hk7 1N3hil 1N3hgr 1N3t4t 1Ntvu 1Ntv0 1N3t3v 1Ntr0 1N3h8c 1Nto9 1N3h7n 1N3h4v 1N3h4l 1Ntcx",
   "1Ntax 1N3h25 1Nt7a 1N3h1r 1N134x 1N3t0s 1N3h00 1N3gxs 1N3szd 1N3gw7 1N3oi9 1Nstc 1Nssz",
   "1N133q 1N133i 1N3gqy 1N3gqw 1N3e27 1N3swz 1N3gn2 1N3gn9 1N3gms 1N3q3j 1N3gma 1N3gm9 1N3gm0",
   "1N3gkw 1Ns4b 1N3gkz 1N3gjg 1N3ghj 1N3gfi 1N3gjd 1N3gf4 1N3gdz 1N3gaw 1N3gi5 1N3gev 1N3geu",
   "1N3gef 1Nrxq 1Nrp6 1Nrtd 1N3ssc 1N3g6v 1N3g6u 1N3g5w 1Nqg1 1N3g3s 1Nrcx 1N3sr5 1N3sr2 1Nr9b",
   "1Nr1b 1N3sqv 1N3fxf 1N3fx4 1N3fwu 1N3fwt 1N3fv2 1N3fw0 1N3fsb 1N3ftk 1N3fpe 1N3fro 1N3fpu",
   "1N3fp4 1X 1N3fmn 1N3fls 1N3snd 1N3fj7 1N3fj5 1Npy6 1N3ffz 1N3fft 1N3slv 1N3ff3 1N3w27 1Npi5",
   "1Npd2 1N3si7 1N3shz 1N3f3j 1N3f1f 1N3ex3 1N3erh 1Noq3 1N3ep5 1N3eok 1N3em3 1N3ejk 1No89",
   "1N1brp 1N3ehb 1N3ehr 1N3egc 1N1blr 1N3ea2 1N3e7b 1Nmxa 1Nmwk 1N3dxq 1N3dv6 1N3dub 1Nmnr",
   "1N3du3 1N3dm7 1N3dht 2N3dke 1N3d9u 1N3d93 1Nlpv 1N3cyr 1N3ryy 1N3cxl 1Nlfe 1N3rws 1N3cq8",
   "1N3o02 1N3cnm 1Nkoh 1Nkil 1N3rt6 1N3rsz 1N3cii 1Nk4x 1N3rre 1Nk13 1Mu17 2N3cgn 1Njt7 1N3cbk",
   "1N3ro0 1N3c9n 1N3c66 1N3c5g 1N3c3t 1N3rju 1Niqh 1N3bw8 1N3bnv 1N3bin 1N3rcv 1N3rc1 1N3bfs",
   "1Nhmq 1N3rbt 1Nhl9 1Nhdx 1Nhab 1N3b6i 1N3r9c 1N3b4u 1N3b4q 1N3b4k 1N3b4b 1N3b45 1N3b35 1Ngm5",
   "1X 15uV 3t7X 5V 38gX f9e8I 6oX"]

/-- The pairs of characters that compose to the character an entry is about. -/
def compositions : List String :=
  ["5cM1t_lc 1M1t_ld 1M1t_le 1M1t_lf 1M1t_lk 1M1t_lm 2M1v_mf 1M1x_lc 1M1x_ld 1M1x_le 1M1x_lk",
   "1M21_lc 1M21_ld 1M21_le 1M21_lk 2M26_lf 1M27_lc 1M27_ld 1M27_le 1M27_lf 1M27_lk 3M2d_lc",
   "1M2d_ld 1M2d_le 1M2d_lk 1M2h_ld 3M2p_lc 1M2p_ld 1M2p_le 1M2p_lf 1M2p_lk 1M2p_lm 2M2r_mf",
   "1M2t_lc 1M2t_ld 1M2t_le 1M2t_lk 1M2x_lc 1M2x_ld 1M2x_le 1M2x_lk 2M32_lf 1M33_lc 1M33_ld",
   "1M33_le 1M33_lf 1M33_lk 3M39_lc 1M39_ld 1M39_le 1M39_lk 1M3d_ld 2M3d_lk 1M1t_lg 1M2p_lg",
   "1M1t_li 1M2p_li 1M1t_mg 1M2p_mg 1M1v_ld 1M2r_ld 1M1v_le 1M2r_le 1M1v_lj 1M2r_lj 1M1v_lo",
   "1M2r_lo 1M1w_lo 1M2s_lo 3M1x_lg 1M2t_lg 1M1x_li 1M2t_li 1M1x_lj 1M2t_lj 1M1x_mg 1M2t_mg",
   "1M1x_lo 1M2t_lo 1M1z_le 1M2v_le 1M1z_li 1M2v_li 1M1z_lj 1M2v_lj 1M1z_mf 1M2v_mf 1M20_le",
   "1M2w_le 3M21_lf 1M2x_lf 1M21_lg 1M2x_lg 1M21_li 1M2x_li 1M21_mg 1M2x_mg 1M21_lj 4M22_le",
   "1M2y_le 1M23_mf 1M2z_mf 2M24_ld 1M30_ld 1M24_mf 1M30_mf 1M24_lo 1M30_lo 5M26_ld 1M32_ld",
   "1M26_mf 1M32_mf 1M26_lo 1M32_lo 4M27_lg 1M33_lg 1M27_li 1M33_li 1M27_ln 1M33_ln 3M2a_ld",
   "1M36_ld 1M2a_mf 1M36_mf 1M2a_lo 1M36_lo 1M2b_ld 1M37_ld 1M2b_le 1M37_le 1M2b_mf 1M37_mf",
   "1M2b_lo 1M37_lo 1M2c_mf 1M38_mf 1M2c_lo 1M38_lo 3M2d_lf 1M39_lf 1M2d_lg 1M39_lg 1M2d_li",
   "1M39_li 1M2d_lm 1M39_lm 1M2d_ln 1M39_ln 1M2d_mg 1M39_mg 1M2f_le 1M3b_le 1M2h_le 1M3d_le",
   "1M2h_lk 1M2i_ld 1M3e_ld 1M2i_lj 1M3e_lj 1M2i_lo 1M3e_lo yM27_m3 1M33_m3 eM2d_m3 1M39_m3",
   "tM1t_lo 1M2p_lo 1M21_lo 1M2x_lo 1M27_lo 1M33_lo 1M2d_lo 1M39_lo 1M64_lg 1M70_lg 1M64_ld",
   "1M70_ld 1M64_lo 1M70_lo 1M64_lc 1M70_lc 2M5g_lg 1M6c_lg 1Mfa_lg 1Mfb_lg 1M5i_lg 1M6e_lg",
   "3M1z_lo 1M2v_lo 1M23_lo 1M2z_lo 1M27_mg 1M33_mg 1Mdm_lg 1Mdn_lg 1Mc7_lo 1Mia_lo 1M2y_lo",
   "4M1z_ld 1M2v_ld 3M26_lc 1M32_lc 1M5h_ld 1M6d_ld 1M5i_ld 1M6e_ld 1M60_ld 1M6w_ld 1M1t_lr",
   "1M2p_lr 1M1t_lt 1M2p_lt 1M1x_lr 1M2t_lr 1M1x_lt 1M2t_lt 1M21_lr 1M2x_lr 1M21_lt 1M2x_lt",
   "1M27_lr 1M33_lr 1M27_lt 1M33_lt 1M2a_lr 1M36_lr 1M2a_lt 1M36_lt 1M2d_lr 1M39_lr 1M2d_lt",
   "1M39_lt 1M2b_me 1M37_me 1M2c_me 1M38_me 3M20_lo 1M2w_lo 7M1t_lj 1M2p_lj 1M1x_mf 1M2t_mf",
   "1M5y_lg 1M6u_lg 1M5x_lg 1M6t_lg 1M27_lj 1M33_lj 1Mfi_lg 1Mfj_lg 1M2h_lg 1M3d_lg 9eM4o_ld",
   "1Mpd_ld 2Mph_ld 1Mpj_ld 1Mpl_ld 2Mpr_ld 2Mpx_ld 1Mq1_ld 1Mqy_ld qMpl_lk 1Mpx_lk 1Mq9_ld",
   "1Mqd_ld 1Mqf_ld 1Mqh_ld 1Mqz_ld qMqh_lk 1Mqt_lk 1Mqn_ld 1Mqt_ld 1Mqx_ld 5Mr6_ld 1Mr6_lk",
   "18Mt1_lc 1Mt1_lk 2Msz_ld 4Msm_lk 5Mt6_ld 1Mt4_lc 1Mtf_li bMt4_li wMu0_li nMtx_lc 1Mtx_lk",
   "2Mtv_ld 4Muu_lk 5Mu2_ld 1Mu0_lc 1Mub_li oMvo_lr 1Mvp_lr 22Mt2_li 1Mty_li eMsw_li 1Mts_li",
   "1Msw_lk 1Mts_lk 3Mt1_li 1Mtx_li 3Myg_lk 1Myh_lk 1Mt2_lk 1Mty_lk 1Mt3_lk 1Mtz_lk 3Mt4_lg",
   "1Mu0_lg 1Mt4_lk 1Mu0_lk 1Mta_lk 1Mu6_lk 3Myw_lk 1Myx_lk 1Mtp_lk 1Mul_lk 1Mtf_lg 1Mub_lg",
   "1Mtf_lk 1Mub_lk 1Mtf_ln 1Mub_ln 1Mtj_lk 1Muf_lk 3Mtn_lk 1Muj_lk 89M17r_18z 1M17r_190",
   "1M18o_190 1M17r_191 1M18q_190 4aM1cl_190 2M1c1_190 hM1ci_190 gmM1t4_1to 8M1tc_1to 3M1tf_1to",
   "47M1xj_1xa 1M1xj_1xz akM287_28m 3M287_27y 1M287_28n 20M2aa_2c7 1iM2bq_2bi 1M2br_2bi",
   "1M2bq_2c7 3gM2fa_2fq 3cM2in_2j9 7M2iu_2j9 1M2iu_2ja 2M2iu_2iq 1M2iy_2j9 3jM2me_2m6 1M2mf_2m6",
   "1M2me_2mv 3yM2qh_2q2 2M2qh_2q7 1M2qk_2q2 1M2qh_2qn g8M36t_372 25cM5c5_5dh 2M5c7_5dh",
   "2M5c9_5dh 2M5cb_5dh 2M5cd_5dh 4M5ch_5dh 15M5dm_5dh 2M5do_5dh 3M5dq_5dh 1M5dr_5dh 2M5du_5dh",
   "jhM1t_md 1M2p_md 1M1u_lj 1M2q_lj 1M1u_mb 1M2q_mb 1M1u_mp 1M2q_mp 1M5j_ld 1M6f_ld 1M1w_lj",
   "1M2s_lj 1M1w_mb 1M2s_mb 1M1w_mp 1M2s_mp 1M1w_mf 1M2s_mf 1M1w_ml 1M2s_ml 1M7m_lc 1M7n_lc",
   "1M7m_ld 1M7n_ld 1M1x_ml 1M2t_ml 1M1x_mo 1M2t_mo 1Mfc_li 1Mfd_li 1M1y_lj 1M2u_lj 1M1z_lg",
   "1M2v_lg 1M20_lj 1M2w_lj 1M20_mb 1M2w_mb 1M20_lk 1M2w_lk 1M20_mf 1M2w_mf 1M20_mm 1M2w_mm",
   "1M21_mo 1M2x_mo 1M5r_ld 1M6n_ld 1M23_ld 1M2z_ld 1M23_mb 1M2z_mb 1M23_mp 1M2z_mp 1M24_mb",
   "1M30_mb 1M5yu_lg 1M5yv_lg 1M24_mp 1M30_mp 1M24_ml 1M30_ml 1M25_ld 1M31_ld 1M25_lj 1M31_lj",
   "1M25_mb 1M31_mb 1M26_lj 1M32_lj 1M26_mb 1M32_mb 1M26_mp 1M32_mp 1M26_ml 1M32_ml 1M5x_ld",
   "1M6t_ld 1M5x_lk 1M6t_lk 1M98_lc 1M99_lc 1M98_ld 1M99_ld 1M28_ld 1M34_ld 1M28_lj 1M34_lj",
   "1M2a_lj 1M36_lj 1M2a_mb 1M36_mb 1M5zu_lg 1M5zv_lg 1M2a_mp 1M36_mp 1M2b_lj 1M37_lj 1M2b_mb",
   "1M37_mb 1M9m_lj 1M9n_lj 1M9s_lj 1M9t_lj 1M602_lj 1M603_lj 1M2c_lj 1M38_lj 1M2c_mb 1M38_mb",
   "1M2c_mp 1M38_mp 1M2c_ml 1M38_ml 1M2d_mc 1M39_mc 1M2d_mo 1M39_mo 1M2d_ml 1M39_ml 1Ma0_ld",
   "1Ma1_ld 1Ma2_lk 1Ma3_lk 1M2e_lf 1M3a_lf 1M2e_mb 1M3a_mb 1M2f_lc 1M3b_lc 1M2f_ld 1M3b_ld",
   "1M2f_lk 1M3b_lk 1M2f_lj 1M3b_lj 1M2f_mb 1M3b_mb 1M2g_lj 1M3c_lj 1M2g_lk 1M3c_lk 1M2h_lj",
   "1M3d_lj 1M2i_le 1M3e_le 1M2i_mb 1M3e_mb 1M2i_mp 1M3e_mp 1M2w_mp 1M38_lk 1M3b_lm 1M3d_lm",
   "2Man_lj 5M1t_mb 1M2p_mb 1M1t_ll 1M2p_ll 1M5e_ld 1M6a_ld 1M5e_lc 1M6a_lc 1M5e_ll 1M6a_ll",
   "1M5e_lf 1M6a_lf 1M61s_le 1M61t_le 1M76_ld 1M77_ld 1M76_lc 1M77_lc 1M76_ll 1M77_ll 1M76_lf",
   "1M77_lf 1M61s_li 1M61t_li 1M1x_mb 1M2t_mb 1M1x_ll 1M2t_ll 1M1x_lf 1M2t_lf 1M5m_ld 1M6i_ld",
   "1M5m_lc 1M6i_lc 1M5m_ll 1M6i_ll 1M5m_lf 1M6i_lf 1M62g_le 1M62h_le 1M21_ll 1M2x_ll 1M21_mb",
   "1M2x_mb 1M27_mb 1M33_mb 1M27_ll 1M33_ll 1M5w_ld 1M6s_ld 1M5w_lc 1M6s_lc 1M5w_ll 1M6s_ll",
   "1M5w_lf 1M6s_lf 1M630_le 1M631_le 1Mbk_ld 1Mbl_ld 1Mbk_lc 1Mbl_lc 1Mbk_ll 1Mbl_ll 1Mbk_lf",
   "1Mbl_lf 1Mbk_mb 1Mbl_mb 1M2d_mb 1M39_mb 1M2d_ll 1M39_ll 1Mbz_ld 1Mc0_ld 1Mbz_lc 1Mc0_lc",
   "1Mbz_ll 1Mc0_ll 1Mbz_lf 1Mc0_lf 1Mbz_mb 1Mc0_mb 1M2h_lc 1M3d_lc 1M2h_mb 1M3d_mb 1M2h_ll",
   "1M3d_ll 1M2h_lf 1M3d_lf 7Mq9_lv 1Mq9_lw 1M64g_lc 1M64h_lc 1M64g_ld 1M64h_ld 1M64g_n6",
   "1M64h_n6 1Mpd_lv 1Mpd_lw 1M64o_lc 1M64p_lc 1M64o_ld 1M64p_ld 1M64o_n6 1M64p_n6 1Mqd_lv",
   "1Mqd_lw 1M64w_lc 1M64x_lc 1M64w_ld 1M64x_ld 3Mph_lv 1Mph_lw 1M654_lc 1M655_lc 1M654_ld",
   "1M655_ld 3Mqf_lv 1Mqf_lw 1M65c_lc 1M65d_lc 1M65c_ld 1M65d_ld 1M65c_n6 1M65d_n6 1Mpj_lv",
   "1Mpj_lw 1M65k_lc 1M65l_lc 1M65k_ld 1M65l_ld 1M65k_n6 1M65l_n6 1Mqh_lv 1Mqh_lw 1M65s_lc",
   "1M65t_lc 1M65s_ld 1M65t_ld 1M65s_n6 1M65t_n6 1Mpl_lv 1Mpl_lw 1M660_lc 1M661_lc 1M660_ld",
   "1M661_ld 1M660_n6 1M661_n6 1Mqn_lv 1Mqn_lw 1M668_lc 1M669_lc 1M668_ld 1M669_ld 3Mpr_lv",
   "1Mpr_lw 1M66g_lc 1M66h_lc 1M66g_ld 1M66h_ld 3Mqt_lv 1Mqt_lw 1M66o_lc 1M66p_lc 1M66o_ld",
   "1M66p_ld 1M66o_n6 1M66p_n6 2Mpx_lw 2M66x_lc 2M66x_ld 2M66x_n6 1Mqx_lv 1Mqx_lw 1M674_lc",
   "1M675_lc 1M674_ld 1M675_ld 1M674_n6 1M675_n6 1Mq1_lv 1Mq1_lw 1M67c_lc 1M67d_lc 1M67c_ld",
   "1M67d_ld 1M67c_n6 1M67d_n6 1Mq9_lc 2Mqd_lc 2Mqf_lc 2Mqh_lc 2Mqn_lc 2Mqt_lc 2Mqx_lc 4M64g_n9",
   "1M64h_n9 1M64i_n9 1M64j_n9 1M64k_n9 1M64l_n9 1M64m_n9 1M64n_n9 1M64o_n9 1M64p_n9 1M64q_n9",
   "1M64r_n9 1M64s_n9 1M64t_n9 1M64u_n9 1M64v_n9 1M65c_n9 1M65d_n9 1M65e_n9 1M65f_n9 1M65g_n9",
   "1M65h_n9 1M65i_n9 1M65j_n9 1M65k_n9 1M65l_n9 1M65m_n9 1M65n_n9 1M65o_n9 1M65p_n9 1M65q_n9",
   "1M65r_n9 1M674_n9 1M675_n9 1M676_n9 1M677_n9 1M678_n9 1M679_n9 1M67a_n9 1M67b_n9 1M67c_n9",
   "1M67d_n9 1M67e_n9 1M67f_n9 1M67g_n9 1M67h_n9 1M67i_n9 1M67j_n9 1Mq9_li 1Mq9_lg 1M67k_n9",
   "1Mq9_n9 1Mq4_n9 2Mq9_n6 1M69i_n9 1Mpd_li 1Mpd_lg 1Mpd_lc 2Mpd_n9 5M4o_n6 1M67o_n9 1Mqf_n9",
   "1Mq6_n9 2Mqf_n6 1M69y_n9 1Mph_lc 2Mpj_lc 2Mpj_n9 1M69r_lc 1M69r_ld 1M69r_n6 1Mqh_li 1Mqh_lg",
   "1Mqy_lc 4Mqh_n6 1Mqy_n6 1Mpl_li 1Mpl_lg 1Mpl_lc 3M6bi_lc 1M6bi_ld 1M6bi_n6 1Mqt_li 1Mqt_lg",
   "1Mqz_lc 2Mqp_lv 1Mqp_lw 1Mqt_n6 1Mqz_n6 1Mpx_li 1Mpx_lg 1Mpx_lc 2Mpt_lw 1M4o_lc 5M67w_n9",
   "1Mqx_n9 1Mr2_n9 2Mqx_n6 1M6ba_n9 1Mpr_lc 2Mq1_lc 2Mq1_n9 biM6mo_mw 1M6mq_mw jM6ms_mw",
   "vM6og_mw 1M6ok_mw 1M6oi_mw 1hM6pv_mw 5M6q0_mw 3M6q3_mw oM6qr_mw 2M6qt_mw rM6rg_mw 3M6rn_mw",
   "3M6rp_mw 2M6rs_mw nM1p_mw 2M6sh_mw bM6rx_mw 1M1o_mw 1M1q_mw 1M6sk_mw 1M6sl_mw 3M6sy_mw",
   "1M6sz_mw 3M6t2_mw 1M6t3_mw 7M6t6_mw 1M6t7_mw 3M6te_mw 1M6tf_mw 3M6ti_mw 1M6tj_mw zM6ua_mw",
   "1M6ug_mw 1M6uh_mw 1M6uj_mw 1dM6t8_mw 1M6t9_mw 1M6tt_mw 1M6tu_mw 7M6uq_mw 1M6ur_mw 1M6us_mw",
   "1M6ut_mw 2n3M9jf_9ll 2M9jh_9ll 2M9jj_9ll 2M9jl_9ll 2M9jn_9ll 2M9jp_9ll 2M9jr_9ll 2M9jt_9ll",
   "2M9jv_9ll 2M9jx_9ll 2M9jz_9ll 2M9k1_9ll 3M9k4_9ll 2M9k6_9ll 2M9k8_9ll 7M9kf_9ll 1M9kf_9lm",
   "2M9ki_9ll 1M9ki_9lm 2M9kl_9ll 1M9kl_9lm 2M9ko_9ll 1M9ko_9lm 2M9kr_9ll 1M9kr_9lm nM9ja_9ll",
   "aM9lp_9ll eM9m3_9ll 2M9m5_9ll 2M9m7_9ll 2M9m9_9ll 2M9mb_9ll 2M9md_9ll 2M9mf_9ll 2M9mh_9ll",
   "2M9mj_9ll 2M9ml_9ll 2M9mn_9ll 2M9mp_9ll 3M9ms_9ll 2M9mu_9ll 2M9mw_9ll 7M9n3_9ll 1M9n3_9lm",
   "2M9n6_9ll 1M9n6_9lm 2M9n9_9ll 1M9n9_9lm 2M9nc_9ll 1M9nc_9lm 2M9nf_9ll 1M9nf_9lm nM9ly_9ll",
   "3M9nz_9ll 1M9o0_9ll 1M9o1_9ll 1M9o2_9ll 4M9od_9ll 1864M1huh_1hve 2M1huj_1hve fM1hut_1hve",
   "3nM1hyp_1hyf 1M1hyq_1hyf f0M1idj_1ida 1M1idj_1idz a7M1int_1inu 1M1int_1ink 2M1int_1inx",
   "70M1iuw_1iun 1M1iux_1iun otM1jjp_1jjk"]

/-- The canonical combining class, as the number behind `C`. -/
def combiningClasses : List String :=
  ["0C0 lcC6e lC6g 1C64 4C6g 1C60 1C64 5C5m 2C64 4C5m 2C64 bC1 5C64 4C6e aC64 3C6e 3C64 3C6e",
   "3C64 4C6e 1C6g 1C64 2C6e 1C6h 1C6i 2C6h 1C6i 2C6h 1C6e eC0 7mC6e 5C0 7dC64 1C6e 4C64 1C6e",
   "3C66 1C64 1C6e 6C64 6C6e 2C64 1C6e 2C66 1C6c 1C6e 1Ca 1Cb 1Cc 1Cd 1Ce 1Cf 1Cg 1Ch 1Ci 1Cj",
   "2Ck 1Cl 1Cm 1C0 1Cn 1C0 1Co 1Cp 1C0 1C6e 1C64 1C0 1Ci 9C0 1sC6e 8Cu 1Cv 1Cw 1C0 1cCr 1Cs 1Ct",
   "1Cu 1Cv 1Cw 1Cx 1Cy 1C6e 2C64 2C6e 5C64 1C6e 2C64 1C0 gCz 1C0 2tC6e 8C0 1C6e 4C64 1C6e 1C0",
   "2C6e 2C0 1C64 1C6e 2C64 1C0 zC10 1C0 uC6e 1C64 1C6e 2C64 1C6e 2C64 3C6e 1C64 2C6e 1C64 1C6e",
   "3C64 1C6e 1C64 1C6e 1C64 1C6e 1C64 1C6e 4C0 4eC6e 7C64 1C6e 1C0 9C64 1C0 oC6e 4C0 1C6e 9C0",
   "1C6e 3C0 1C6e 7C0 15C64 5C0 1mC6e 1C64 3C6e 4C0 16C6e 5C64 5C6e fC64 1C6e 2C64 1C6e 2C64",
   "1C6e 3C64 3Cr 1Cs 1Ct 1C6e 3C64 1C6e 2C64 2C6e 5C0 1oC7 1C0 gC9 1C0 3C6e 1C64 1C6e 2C0 2vC7",
   "1C0 gC9 1C0 1cC6e 3C0 1nC7 2C0 fC9 4C0 2zC7 1C0 gC9 3C0 30C7 1C0 gC9 8C0 3cC9 3C0 30C7 1C0",
   "gC9 8C2c 1C2j 2C0 2sC7 1C0 gC9 8C0 2uC9 2C0 gC9 1C0 3gC9 5C0 2xC2v 2C9 5C0 9C2z 4C0 30C3a",
   "2C9 1C0 dC3e 4C0 24C64 2C0 rC64 1C0 1C64 1C0 1C60 1C0 1jC3l 1C3m 2C3o 6C3m 4C0 2C3m 2C6e 2C9",
   "1C0 1C6e 2C0 1qC64 1C0 34C7 1C0 1C9 2C0 2aC64 1C0 jzC6e 3C0 qcC9 bC0 lC9 1C0 4dC9 1C0 aC6e",
   "3C0 5lC6c 1C0 3zC66 1C6e 1C64 5C0 5zC6e 1C64 1C0 1zC9 1C0 kC6e aC64 1C0 1cC6e 5C64 6C6e 2C64",
   "1C0 1C64 2C6e 2C64 2C6e 5C64 1C6e 1hC0 1gC7 1C0 fC9 1C0 12C6e 1C64 1C6e 7C0 1iC9 2C0 1mC7",
   "1C0 bC9 aC0 1nC7 4C0 45C6e 3C0 1C1 1C64 5C6e 2C64 4C6e 1C0 1C1 7C0 4C64 1C0 6C6e 1C0 3C6e",
   "2C0 5iC6e 2C64 1C6e 7C64 1C6e 2C6i 1C5y 1C64 1C5m 1C6e 11C6g 1C6c 2C64 1C62 1C6e 1C6h 1C64",
   "1C6e 1C64 2C0 jzC6e 2C1 2C6e 4C1 3C6e 2C0 4C6e 1C0 3C1 2C6e 1C64 1C6e 1C1 2C64 4C6e kC0",
   "2crC6e 4C0 3wC9 1C0 2oC6e wC0 feC62 1C6c 1C6g 1C66 1C68 2C0 2xC8 4C0 n9uC6e 1C0 4C6e aC0",
   "wC6e 2C0 28C6e 2C0 7oC9 1C0 11C9 4C0 44C9 1C0 rC6e iC0 1lC64 3C0 11C9 cC0 2cC7 1C0 cC9 1C0",
   "6nC6e 1C0 1C6e 2C64 1C0 2C6e 2C0 5C6e 2C0 1C6e 1C0 1gC9 bC0 6kC9 3C0 fn2Cq 44C0 haC6e 7C64",
   "7C6e nC0 qgC64 3nC0 2oC64 1C0 45C6e aC0 1alC64 1C0 1C6e 1C0 14C6e 1C1 1C64 5C9 1C0 4lC6e",
   "1C64 5C0 ftC6e cC0 ajC6e 2C0 49C64 2C6e 3C64 1C6e 1C64 4C0 1dC6e 1C64 1C6e 1C64 1C0 5cC9 1C0",
   "15C9 1C0 eC9 1C0 1lC9 1C7 1C0 1xC6e 3C0 1cC9 3C0 1pC7 1C0 24C9 1C0 9C7 1C0 2yC9 1C7 1C0 4yC7",
   "1C9 6C0 23C7 2C0 gC9 3C0 mC6e 4aC0 1uC9 1C0 3C7 1C0 nC6e 1C0 2rC9 1C7 1C0 6zC9 1C7 1C0 3iC9",
   "1C0 3aC9 1C7 1C0 37C9 5C0 7dC9 1C7 1C0 76C9 2C0 4C7 1C0 4cC9 1C0 2bC9 1C0 iC9 9C0 21C9 1C0",
   "bpC9 1C0 76C7 1C0 1C9 2C0 29C9 1C0 fa0C1 5C0 1nC6e 7C0 xlC6 gC0 f4uC1 1C0 43qC60 2C1 3C0",
   "3C6a 1C60 dC64 8C0 2C6e 5C64 2C0 uC6e 4C0 44C6e 3C0 2pnC6e 74C0 1cC6e 7C0 afC6e iC0 18C6e",
   "4C0 15sC64 2aC0 yC6e 6C7 1C0"]

/-- `M` for combining marks, `O` for all other characters. -/
def marks : List String :=
  ["0O lcM 35O 7mM 8O 7aM 19O 1M 1O 1M 2O 1M 2O 1M 9O 1sM bO 1cM lO gM 1O 2tM 8O 1M 6O 2M 2O 1M",
   "4O zM 1O uM tO 2hM bO 1mM 9O 9M 1O oM 4O 1M 9O 1M 3O 1M 7O 15M 5O 1mM 8O 16M 1mO 1iM 3O 1M",
   "iO 1M fO 2M 2O tM 4O 1jM 1O 1M gO 9M 9O 2M 4O oM 7O 1jM wO kM 2O 3M 1O bM 4O 1jM 1O 1M iO iM",
   "4O kM bO 1jM 1O 1M xO 3M 4O sM 1O 1nM iO 7M fO qM 5O 1jM 1O 1M qO aM 4O rM 3O 1kM 1O 1M vO",
   "5M 4O qM 4O 1jM 2O 1M gO 9M 1O aM 4O rM 4O 1xM sO cM 2O 1pM 1O 2M bO 8M 8O 2qM 1O 2M 9O bM",
   "8O 20M 2O rM 1O 1M 1O 1M 1O 4M 2O 1dM kO 1M 2O 5M 1dO 8M 1O 2sM kO nM 4O 4M 3O 1M 3O 2M 7O",
   "3M 4O dM cO 1M 1O aM 4O jjM 3O qaM dO jM 3O tM eO iM eO 1iM uO 9M 3O 4lM 2O yM 1O 3aM wO 5zM",
   "7O 1jM 17O 1cM 2dO 1bM hO 12M 9O cM 3O uM dO 1kM mO 14M nO 45M 3O 1M lO 4M 1O 6M 1O 2M 3O",
   "5iM 1tO jzM 1gO 2crM 4O 3wM 1O 2oM wO feM 6O 2xM 4O n9uM 4O 1M aO wM 2O 28M 2O 7kM 1O 3M 1O",
   "4M 1O nM 5O 4M 4O 28M 2O 1eM qO iM iO dM 1O 12M 8O pM oO xM 4O 1bM eO 10M 1O 1vM nO 3M 1O 8M",
   "4O 17M 3O 1eM 1O 1M 3O 2M 2O 5M 2O 1M 1O 15M 5O 5M cO 6aM 8O 1M 4O fn2M 44O haM 11O qgM 3nO",
   "2oM 1O 45M aO 1a9M fO 14M 8O 4lM 6O ftM cO ajM 2O 49M bO 1dM 4O 3eM 3O 1hM fO 15M 1O 2M 2O",
   "aM 4O 19M bO 7M eO 1cM 3O 10M fO fM 2O 18M 1O cM 3O 1cM eO 8M 4O 1M 2O 2kM cO 6M 1uO 2nM hO",
   "gM 5O 1iM 2O 1M iO 7M 6O 5M 4eO 1hM iO nM 1O 29M kO 6jM iO rM 10O 1cM hO 2yM dO 2tM jO 70M",
   "fO 6tM fO 1M 1O 1M 2O 3xM gO 3M sO 1M aO 14M 7O 1M 4O 8M 9O 1M bO 1aM gO b9M hO 2aM 32O 1dM",
   "lO 1M 9O 1mM eO 9nM 4O f09M 5O 1nM 7O t4M 1O 1M 1uO 29M sO f4tM 2O 3mpM 28O etM 5O 3M mO 2M",
   "7O uM 4O 44M 3O 1izM 1jO 4M 1eO 8M 1O eM 1O mM v9O 74M 74O 1cM 7O afM iO 18M 4O 15sM 2aO yM",
   "7O"]

/-- The direction class: `L` left to right, `R` right to left, `A` Arabic letter, `N` Arabic number,
`E` European number, `S` separator and `T` terminator of European numbers, `C` common separator,
`O` neutral, `B` boundary neutral, `M` mark, `X` any other. -/
def directions : List String :=
  ["0B 9X 5B eX 5O 2T 3O 5S 1C 1S 1C 2E aC 1O 12L qO 4B yO 1T 4O aT 6O 15L oO 1L chO 2L 7O eL 2O",
   "sL 1O hM 35L 4O 2L 3jO 2L 3vM 8L 73O 5T 2M 19R 1M 1R 1M 2R 1M 2R 1M 9R 1iO 2A 1T 2A 1C 1A 1O",
   "2M bA 1cM lN aT 1N 2A 3M 1A 2tM 8O 1M 6A 2M 2O 1M 4A 2E aA nM 1A uM tA 2hM bA fR 17M 9R 2O",
   "4R 3M 1R oM 4R 1M 9R 1M 3R 1M 7R 15M 5R 2A 1kM 8A 16M 1lL 1jM 1L 1M 1L 4M 8L 4M 1L 3M fL 2M",
   "2L tM 1L 1mM 1L 4M 6L 6M 1L kM 4L cT 2L 7T 1L 2M 5L 1lM 2L 3M rL kM 2L 3M 1L bM 2L 1lM 1L 4M",
   "8L 4M 3L iM 4L bT 8L 1M 8L 1mM 1L 2M 1L 1M 6L 6M aL bM 4L sM 1L 1pM 1L cM 3L zO 6T 1O 6M 1L",
   "3M 1L 1jM 1L 1M 3L 5M iL aM 4L iO 7L 2M 1L 1mM 1L fM 9L dM 4L qM 2L 1lM 2L 4M 5L 7M 1L kM 4L",
   "rM 1L 20M 5L 3M 6L 2hM 1L 2M bT 1L 7M 8L 2qM 1L 2M 9L bM 8L 20M 2L rM 1L 1M 1L 1M 1O 4L 1fM",
   "eL 1M 5L 1M 2L 5M 1dL 8M 1L 2uM 4L 1M 6L 1M 2L 2M 2L pM 2L 4M 3L gM 4L dM 1L 2M 2L 6M 1L fM",
   "1L jjM 3L 1cO gL 2oO 1L iiO 5L 36M 3L tM 2L uM eL iM eL 1jM 7L 8M 1L 2M bL 7T 1L 1M 3L gO wL",
   "39M 2L yM 1L 3aM 3L 4M 2L 9M 1L 6M 7O 6L 48O yL nM 2L 2M 3L 1kM 1L 1M 9L 1M 1L 2M 8L 6M dL",
   "1cM 2cL 1cM 1L 1M 5L 1M 1L 5M 1L 14M 9L cM 2L wM 4L 2M 2L 1M 3L 1kM 1L 1M 2L 3M 1L 1M 3L 1mM",
   "8L 2M 5L 45M 3L 1M dL 1M 7L 4M 1L 6M 1L 3M 2L 5iM 1tL ejB 4O wT 5O fC 1O 2jT 1cM 1gO 16T cO",
   "kL 1oO 3sS 1T 1O 82L 1xO qL 1O lyL 1O 9fL 74O moL 51O 7L 3M 4L 6O 7L 3jM 1L 2oM wO edL 3O pL",
   "9M 4L 2O 1L 6O 4L 2O 4L 2gM 4L 3O 1L 2iO 1L 5gO 1cL 5hsO 1sL h3kO 1sL 8tO 3L 2nM 4O 1M aO 3L",
   "tM 2L 28M 2L eO zL 2tO 1L 3dM 1L 3M 1L 4M 1L pM 2L 1O 4M 4L 8T 8L 1gO cL 1wM aL iM iL dM 1L",
   "12M 8L pM bL 1aM 3L 1cM 1L 2M 4L 2M 2L 13M 1L 1vM 6L 2M 2L 2M bL 3M 1L 8M 1L 1bM 1L 1fM 1L",
   "1M 3L 2M 2L 5M 2L 1M 1L 16M 2L 8M bL 2xO 2eL 11M 1L 2M 1L 4M 3L fn2M 44A b0O 6aM 11O 1aA b1L",
   "75O 1L 1qO 25L 3O 1sL 19M 3nL 2oM 1E vL 3aM aL w0R 7zO 1R 69M fR 14M 8R 4lM 6R 26O 7R cgA",
   "10M cN 9cR 17M 2R 3nA mM bA vR iM 4R 3eL 1M 1L 1iM fL bO kL aM 1L 2M 2L aM 3L 1dM 4L 2M 2L",
   "7M eL 1cM 3L 10M 5L 1M 9L 1pM 1L cM 2L 1gM 9L aM 4L 2M 1L 2nM 3L 2M 1L 1M 2L 6M 1uL 2nM 1L",
   "3M dL gM 2L 1lM 2L 3M 1L 11M 4aL 1kM 8L 2M 3L 1M 1L nM 1L 2cM 6L 1M 1L 4M 2L 1M 2L 6mM 6L 4M",
   "2L 1M 2L rM 10L 1fM 8L 2M 1L 1M 2L vO wL 17M 1L 1M 1L 2M 6L 1M 1L 2tM 3L 2M 4L 1M 9L 73M 9L",
   "1M 2L 74M 2L 1M 1L 4M 1L 40M 8L 4M 1L wM 6L 2M 2L 14M 6L 2M 4L 8M 9L 1M 6L 2M 3L 1aM dL 1M",
   "2L baM eL 2cM nL 1M 7L 1M 2L 1M 23L 1dM lL 1M 9L 1sM 3L 2M 1L 1M 1L 9nM 2L 68O 8T 4O uL esxM",
   "5L 1nM 7L t4M 1L 1rM 4L 27O 1L 1M cL f59M 2L 3mpM 28L evM 3L hM 8L 2M 7L uM 4L 1nO 2hM 3O",
   "4bL wO 2oL 1b4M 1jL 4M 1eL 8M 1L eM 1L mM v9L 74M 74L 1cM 7L afM iL 18M 4L fT ypL wR 5sM 2aR",
   "yM 7R meA hrO gwL tO 3L 1pO 1lL 3eO 2owL"]

/-- How a character joins its neighbours: `L`, `R` and `D` to the left, to the right and on both
sides, `C` it causes joining, `T` it is transparent, `U` not at all. -/
def joiningTypes : List String :=
  ["0U lcT 35U 7mT 8U 7aT 19U 1T 1U 1T 2U 1T 2U 1T 9U 1sT bU 5D 1U 1R 4D 1R 1D 1R 1D 5R 4D dC 1D",
   "7R 1D 2T lU eD 2T 1R 3U 5D fR iD 12R 1D 2R 9D 1R 1D 1R 1D 2R 2U 1R 1T 8U 1T 6U 2T 2U 1T 4R",
   "2U aD 3U 2D 1U gR 1T 1D 3R 5D 4R 1D 9R 1D 1R 1D 1R 1D 2R 1T tR 1D bR 3D fR 2D 4R 1D 1R 2D 3R",
   "2D 6U 12T bU pD xT 9U 6C 3T 1U oT 4U 1T 9U 1T 3U 1T 7U gR 1D 5R 2D 1R 1D aR 1D 1R 3T 5U 2D",
   "1U 1D 4U 1R 1D 1R qC 3D 1U 2D 5R aT 8D aR 3U 1R 1D 2R 2D 6R 1D fU 1T 1lU 1jT 1U 1T 1U 4T 8U",
   "4T 1U 3T fU 2T 2U tT 1U 1mT 1U 4T 6U 6T 1U kT 4U oT 5U 1lT 2U 3T rU kT 2U 3T 1U bT 2U 1lT 1U",
   "4T 8U 4T 3U iT 4U kT 8U 1mT 1U 2T 1U 1T 6U 6T aU bT 4U sT 1U 1pT 1U cT 3U 1cT 1U 3T 1U 1jT",
   "1U 1T 3U 5T iU aT 4U rT 1U 1mT 1U 2T 1U 6T 1U 5T 9U dT 4U qT 2U 1lT 2U 4T 5U 7T 1U kT 4U rT",
   "1U 20T 5U 3T 6U 2hT 1U 2T bU 8T 8U 2qT 1U 2T 9U bT 8U 20T 2U rT 1U 1T 1U 1T 1U 1jT eU 1T 5U",
   "1T 2U 5T 1dU 8T 1U 2uT 4U 1T 6U 1T 2U 2T 2U pT 2U 4T 3U gT 4U dT 1U 2T 2U 6T 1U fT 1U jjT 3U",
   "qaT 3U tT 2U uT eU iT eU 1jT 7U 8T 1U 2T bU 9T 3U 13D 1U 2C 6U gD 2oU 5T 2D yT 1D 6U 34T 3U",
   "4T 2U 9T 1U 6T 7U 5zT 2U 2T 3U 1kT 1U 1T 9U 1T 1U 2T 8U 6T dU 1cT 2cU 1cT 1U 1T 5U 1T 1U 5T",
   "1U 14T 9U cT 2U wT 4U 2T 2U 1T 3U 1kT 1U 1T 2U 3T 1U 1T 3U 1mT 8U 2T 5U 45T 3U 1T dU 1T 7U",
   "4T 1U 6T 1U 3T 2U 5iT 1tU ekC 3U 5cT 1gU 2crT 4U 3wT 1U 2oT wU feT 4U 2zT 4U n9uT 4U 1T aU",
   "wT 2U 28T 2U 7kT 1U 3T 1U 4T 1U pT 2U 5T 4U gD 1eL 1U 29T aU iT iU dT 1U 12T 8U pT bU 1aT 3U",
   "1cT 1U 2T 4U 2T 2U 13T 1U 1vT 6U 2T 2U 2T bU 3T 1U 8T 1U 1bT 1U 1fT 1U 1T 3U 2T 2U 5T 2U 1T",
   "1U 16T 2U 8T bU 6cT 1U 2T 1U 4T 3U fn2T 44U haT 11U qgT 3nU 2oT 1U 45T aU 1a9T fU 14T 8U 3kD",
   "5R 1U 1R 1U 1R 2U 2L 1R 5D 4L 1D 5R 1D 3R 1U 2R 1T 6D 4R 1U 40D 1R 1D 1R 3D 3R 1D 2R 1D 1R",
   "2D 1R 8U gR 4D 2U 9dL 1D xR 1D 1T cU ajT 2U 3nD 3R 1D hU 1T bD 3R 1U rD 4R 2D cT 4U 16D 1U",
   "1D 2R 3U 1D 1R 2D 2R 1D 2U 1D 1R 2D 1U 4R 1D 1L lU xT 1U 1iT fU 15T 1U 2T 2U aT 3U 1dT 4U 2T",
   "2U 7T eU 1cT 3U 10T 5U 1T 9U 1pT 1U cT 2U 1gT 9U aT 4U 2T 1U 2nT 3U 2T 1U 1T 2U 6T 1uU 2nT",
   "1U 3T dU gT 2U 1lT 2U 3T 1U 11T 4aU 1kT 8U 2T 3U 1T 1U nT 1U 2cT 6U 1T 1U 4T 2U 1T 2U 6mT 6U",
   "4T 2U 1T 2U rT 10U 1fT 8U 2T 1U 1T 2U 2yT 1U 1T 1U 2T 6U 1T 1U 2tT 3U 2T 4U 1T 9U 73T 9U 1T",
   "2U 74T 2U 1T 1U 4T 1U 40T 8U 4T 1U wT aU 14T 6U 2T 4U 8T 9U 1T 6U 2T 3U 1aT dU 1T 2U baT eU",
   "1T 1U 2aT nU 1T 7U 1T 2U 1T 23U 1dT lU 1T 9U 1sT 3U 2T 1U 1T 1U 9nT 2U f0bT 5U 1nT 7U t4T 1U",
   "1rT 4U 29T cU f59T 2U 3mpT 28U evT 3U hT 8U 2T 7U uT 4U 44T 3U 1izT 1jU 4T 1eU 8T 1U eT 1U",
   "mT v9U 74T 74U 1cT 7U afT iU 18T 4U 15sT 2aD yT cU"]

end RelayTunnel.Url.DomainTables
