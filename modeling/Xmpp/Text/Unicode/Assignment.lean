import Xmpp.Text.Unicode.Rows

/-!
# Unassigned characters

The code points that had no character in the version of Unicode the
preparation of addresses is tied to. A text that contains one of them is
refused, since nobody can know how it should be prepared.
-/

namespace Xmpp.Unicode

/-- The ranges of unassigned code points. -/
def unassigned : Array (Array Nat) :=
  rows "
    221;234,24f;2ae,2af;2ef,2ff;350,35f;370,373;376,379;37b,37d;37f,383;38b;38d;3a2;3cf;3f7,3ff;
    487;4cf;4f6,4f7;4fa,4ff;510,530;557,558;560;588;58b,590;5a2;5ba;5c5,5cf;5eb,5ef;5f5,60b;
    60d,61a;61c,61e;620;63b,63f;656,65f;6ee,6ef;6ff;70e;72d,72f;74b,77f;7b2,900;904;93a,93b;
    94e,94f;955,957;971,980;984;98d,98e;991,992;9a9;9b1;9b3,9b5;9ba,9bb;9bd;9c5,9c6;9c9,9ca;
    9ce,9d6;9d8,9db;9de;9e4,9e5;9fb,a01;a03,a04;a0b,a0e;a11,a12;a29;a31;a34;a37;a3a,a3b;a3d;
    a43,a46;a49,a4a;a4e,a58;a5d;a5f,a65;a75,a80;a84;a8c;a8e;a92;aa9;ab1;ab4;aba,abb;ac6;aca;
    ace,acf;ad1,adf;ae1,ae5;af0,b00;b04;b0d,b0e;b11,b12;b29;b31;b34,b35;b3a,b3b;b44,b46;b49,b4a;
    b4e,b55;b58,b5b;b5e;b62,b65;b71,b81;b84;b8b,b8d;b91;b96,b98;b9b;b9d;ba0,ba2;ba5,ba7;bab,bad;
    bb6;bba,bbd;bc3,bc5;bc9;bce,bd6;bd8,be6;bf3,c00;c04;c0d;c11;c29;c34;c3a,c3d;c45;c49;c4e,c54;
    c57,c5f;c62,c65;c70,c81;c84;c8d;c91;ca9;cb4;cba,cbd;cc5;cc9;cce,cd4;cd7,cdd;cdf;ce2,ce5;
    cf0,d01;d04;d0d;d11;d29;d3a,d3d;d44,d45;d49;d4e,d56;d58,d5f;d62,d65;d70,d81;d84;d97,d99;db2;
    dbc;dbe,dbf;dc7,dc9;dcb,dce;dd5;dd7;de0,df1;df5,e00;e3b,e3e;e5c,e80;e83;e85,e86;e89;e8b,e8c;
    e8e,e93;e98;ea0;ea4;ea6;ea8,ea9;eac;eba;ebe,ebf;ec5;ec7;ece,ecf;eda,edb;ede,eff;f48;f6b,f70;
    f8c,f8f;f98;fbd;fcd,fce;fd0,fff;1022;1028;102b;1033,1035;103a,103f;105a,109f;10c6,10cf;
    10f9,10fa;10fc,10ff;115a,115e;11a3,11a7;11fa,11ff;1207;1247;1249;124e,124f;1257;1259;
    125e,125f;1287;1289;128e,128f;12af;12b1;12b6,12b7;12bf;12c1;12c6,12c7;12cf;12d7;12ef;130f;
    1311;1316,1317;131f;1347;135b,1360;137d,139f;13f5,1400;1677,167f;169d,169f;16f1,16ff;170d;
    1715,171f;1737,173f;1754,175f;176d;1771;1774,177f;17dd,17df;17ea,17ff;180f;181a,181f;
    1878,187f;18aa,1dff;1e9c,1e9f;1efa,1eff;1f16,1f17;1f1e,1f1f;1f46,1f47;1f4e,1f4f;1f58;1f5a;
    1f5c;1f5e;1f7e,1f7f;1fb5;1fc5;1fd4,1fd5;1fdc;1ff0,1ff1;1ff5;1fff;2053,2056;2058,205e;
    2064,2069;2072,2073;208f,209f;20b2,20cf;20eb,20ff;213b,213c;214c,2152;2184,218f;23cf,23ff;
    2427,243f;244b,245f;24ff;2614,2615;2618;267e,267f;268a,2700;2705;270a,270b;2728;274c;274e;
    2753,2755;2757;275f,2760;2795,2797;27b0;27bf,27cf;27ec,27ef;2b00,2e7f;2e9a;2ef4,2eff;
    2fd6,2fef;2ffc,2fff;3040;3097,3098;3100,3104;312d,3130;318f;31b8,31ef;321d,321f;3244,3250;
    327c,327e;32cc,32cf;32ff;3377,337a;33de,33df;33ff;4db6,4dff;9fa6,9fff;a48d,a48f;a4c7,abff;
    d7a4,d7ff;fa2e,fa2f;fa6b,faff;fb07,fb12;fb18,fb1c;fb37;fb3d;fb3f;fb42;fb45;fbb2,fbd2;
    fd40,fd4f;fd90,fd91;fdc8,fdcf;fdfd,fdff;fe10,fe1f;fe24,fe2f;fe47,fe48;fe53;fe67;fe6c,fe6f;
    fe75;fefd,fefe;ff00;ffbf,ffc1;ffc8,ffc9;ffd0,ffd1;ffd8,ffd9;ffdd,ffdf;ffe7;ffef,fff8;
    10000,102ff;1031f;10324,1032f;1034b,103ff;10426,10427;1044e,1cfff;1d0f6,1d0ff;1d127,1d129;
    1d1de,1d3ff;1d455;1d49d;1d4a0,1d4a1;1d4a3,1d4a4;1d4a7,1d4a8;1d4ad;1d4ba;1d4bc;1d4c1;1d4c4;
    1d506;1d50b,1d50c;1d515;1d51d;1d53a;1d53f;1d545;1d547,1d549;1d551;1d6a4,1d6a7;1d7ca,1d7cd;
    1d800,1fffd;2a6d7,2f7ff;2fa1e,2fffd;30000,3fffd;40000,4fffd;50000,5fffd;60000,6fffd;
    70000,7fffd;80000,8fffd;90000,9fffd;a0000,afffd;b0000,bfffd;c0000,cfffd;d0000,dfffd;e0000;
    e0002,e001f;e0080,efffd;"

end Xmpp.Unicode
