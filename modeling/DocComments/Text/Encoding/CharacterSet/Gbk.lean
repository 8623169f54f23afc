import DocComments.Text.Encoding.CharTable

/-!
# Extensions of GB 2312

Single characters with which GBK and GB 18030 go beyond GB 2312.  A pair of bytes is numbered
by its first byte from 0x81 on and its place among the 190 second bytes.
-/

namespace DocComments.Text.CharTable

/-- The signs of GBK, with the two that it reads another way than GB 2312. -/
def gbkSigns : CharTable := .ofRuns
  [ (6179, "·�����—"), (6366, "ⅰⅱⅲⅳⅴⅵⅶⅷⅸⅹ"), (7189, "︵︶︹︺︿﹀︽︾﹁﹂﹃﹄��︻︼︷︸︱�︳︴"),
    (7410,
      "ˊˋ˙–―‥‵℅℉↖↗↘↙∕∟∣≒≦≧⊿═║╒╓╔╕╖╗╘╙╚╛╜╝╞╟╠╡╢╣╤╥╦╧╨╩╪╫╬╭╮╯╰╱╲╳▁▂▃▄▅▆▇█▉▊▋▌▍▎▏▓▔▕▼▽◢◣◤◥☉⊕〒〝〞"),
    (7532, "ɑ�ńň�ɡ"),
    (7600, "〡〢〣〤〥〦〧〨〩㊣㎎㎏㎜㎝㎞㎡㏄㏎㏑㏒㏕︰￢￤�℡㈱�‐���ー゛゜ヽヾ〆ゝゞ﹉﹊﹋﹌﹍﹎﹏﹐﹑﹒﹔﹕﹖﹗﹙﹚﹛﹜﹝﹞﹟﹠﹡﹢﹣﹤﹥﹦﹨﹩﹪﹫"),
    (7685, "〇")]

/-- The characters that GB 18030 adds one by one. -/
def gb18030Signs : CharTable := .ofRuns
  [ (6376, "\ue766\ue767\ue768\ue769\ue76a\ue76b"), (6432, "€\ue76d"), (6444, "\ue76e\ue76f"),
    (6458, "\ue770\ue771"),
    (6829, "\ue772\ue773\ue774\ue775\ue776\ue777\ue778\ue779\ue77a\ue77b\ue77c"),
    (7022, "\ue77d\ue77e\ue77f\ue780\ue781\ue782\ue783\ue784"),
    (7150, "\ue785\ue786\ue787\ue788\ue789\ue78a\ue78b\ue78c"),
    (7182, "\ue78d\ue78e\ue78f\ue790\ue791\ue792\ue793"),
    (7201, "\ue794\ue795�����\ue796��\ue797\ue798\ue799\ue79a\ue79b\ue79c\ue79d\ue79e\ue79f"),
    (7349,
      "\ue7a0\ue7a1\ue7a2\ue7a3\ue7a4\ue7a5\ue7a6\ue7a7\ue7a8\ue7a9\ue7aa\ue7ab\ue7ac\ue7ad" ++
      "\ue7ae"),
    (7397, "\ue7af\ue7b0\ue7b1\ue7b2\ue7b3\ue7b4\ue7b5\ue7b6\ue7b7\ue7b8\ue7b9\ue7ba\ue7bb"),
    (7495, "\ue7bc\ue7bd\ue7be\ue7bf\ue7c0\ue7c1\ue7c2\ue7c3\ue7c4\ue7c5\ue7c6"),
    (7533, "\ue7c7��ǹ�\ue7c9\ue7ca\ue7cb\ue7cc"),
    (7579,
      "\ue7cd\ue7ce\ue7cf\ue7d0\ue7d1\ue7d2\ue7d3\ue7d4\ue7d5\ue7d6\ue7d7\ue7d8\ue7d9\ue7da" ++
      "\ue7db\ue7dc\ue7dd\ue7de\ue7df\ue7e0\ue7e1"),
    (7624, "\ue7e2��\ue7e3�\ue7e4\ue7e5\ue7e6"),
    (7672,
      "〾\u2ff0\u2ff1\u2ff2\u2ff3\u2ff4\u2ff5\u2ff6\u2ff7\u2ff8\u2ff9\u2ffa\u2ffb�\ue7f4" ++
      "\ue7f5\ue7f6\ue7f7\ue7f8\ue7f9\ue7fa\ue7fb\ue7fc\ue7fd\ue7fe\ue7ff\ue800"),
    (7775,
      "\ue801\ue802\ue803\ue804\ue805\ue806\ue807\ue808\ue809\ue80a\ue80b\ue80c\ue80d\ue80e" ++
      "\ue80f"),
    (16525, "\ue810\ue811\ue812\ue813\ue814"),
    (23766,
      "⺁\ue816\ue817\ue818⺄㑳㑇⺈⺋\ue81e㖞㘚㘎⺌⺗㥮㤘\ue826㧏㧟㩳㧐\ue82b\ue82c㭎㱮㳠⺧\ue831\ue832⺪䁖䅟⺮䌷⺳⺶⺷" ++
      "\ue83b䎱䎬⺻䏝䓖䙡䙌\ue843䜣䜩䝼䞍⻊䥇䥺䥽䦂䦃䦅䦆䦟䦛䦷䦶\ue854\ue855䲣䲟䲠䲡䱷䲢䴓䴔䴕䴖䴗䴘䴙䶮\ue864")]

end DocComments.Text.CharTable
