import FieldFilter.Calendar.Yearly

/-! Clock histories: Tokyo, Kolkata, Kathmandu, Beirut.
-/

namespace FieldFilter.Calendar.History

def tokyo : History :=
  { initial := 33539,
    changes :=
      [
        ⟨-2587712400, 32400⟩, ⟨-683802000, 36000⟩, ⟨-672310800, 32400⟩, ⟨-654771600, 36000⟩,
        ⟨-640861200, 32400⟩, ⟨-620298000, 36000⟩, ⟨-609411600, 32400⟩, ⟨-588848400, 36000⟩,
        ⟨-577962000, 32400⟩
      ] }

def kolkata : History :=
  { initial := 21208,
    changes :=
      [
        ⟨-3645237208, 21200⟩, ⟨-3155694800, 19270⟩, ⟨-2019705670, 19800⟩, ⟨-891581400, 23400⟩,
        ⟨-872058600, 19800⟩, ⟨-862637400, 23400⟩, ⟨-764145000, 19800⟩
      ] }

def kathmandu : History :=
  { initial := 20476,
    changes :=
      [
        ⟨-1577943676, 19800⟩, ⟨504901800, 20700⟩
      ] }

/-- The clock of Beirut. From 2038 through 2099 it changes every year on two hours before the
last Sunday of March and three hours before the last Sunday of October, universal time; after
that it stays. -/
def beirut : History :=
  { initial := 8520,
    changes :=
      [
        ⟨-2840149320, 7200⟩, ⟨-1570413600, 10800⟩, ⟨-1552186800, 7200⟩, ⟨-1538359200, 10800⟩,
        ⟨-1522551600, 7200⟩, ⟨-1507514400, 10800⟩, ⟨-1490583600, 7200⟩, ⟨-1473645600, 10800⟩,
        ⟨-1460948400, 7200⟩, ⟨-399866400, 10800⟩, ⟨-386650800, 7200⟩, ⟨-368330400, 10800⟩,
        ⟨-355114800, 7200⟩, ⟨-336794400, 10800⟩, ⟨-323578800, 7200⟩, ⟨-305172000, 10800⟩,
        ⟨-291956400, 7200⟩, ⟨-273636000, 10800⟩, ⟨-260420400, 7200⟩, ⟨78012000, 10800⟩,
        ⟨86734800, 7200⟩, ⟨105055200, 10800⟩, ⟨118270800, 7200⟩, ⟨136591200, 10800⟩,
        ⟨149806800, 7200⟩, ⟨168127200, 10800⟩, ⟨181342800, 7200⟩, ⟨199749600, 10800⟩,
        ⟨212965200, 7200⟩, ⟨231285600, 10800⟩, ⟨244501200, 7200⟩, ⟨262735200, 10800⟩,
        ⟨275950800, 7200⟩, ⟨452210400, 10800⟩, ⟨466722000, 7200⟩, ⟨483746400, 10800⟩,
        ⟨498258000, 7200⟩, ⟨515282400, 10800⟩, ⟨529794000, 7200⟩, ⟨546818400, 10800⟩,
        ⟨561330000, 7200⟩, ⟨581119200, 10800⟩, ⟨592952400, 7200⟩, ⟨610754400, 10800⟩,
        ⟨624488400, 7200⟩, ⟨641512800, 10800⟩, ⟨656024400, 7200⟩, ⟨673048800, 10800⟩,
        ⟨687560400, 7200⟩, ⟨704671200, 10800⟩, ⟨718146000, 7200⟩, ⟨733269600, 10800⟩,
        ⟨748990800, 7200⟩, ⟨764719200, 10800⟩, ⟨780440400, 7200⟩, ⟨796168800, 10800⟩,
        ⟨811890000, 7200⟩, ⟨828223200, 10800⟩, ⟨843944400, 7200⟩, ⟨859672800, 10800⟩,
        ⟨875394000, 7200⟩, ⟨891122400, 10800⟩, ⟨906843600, 7200⟩, ⟨922572000, 10800⟩,
        ⟨941317200, 7200⟩, ⟨954021600, 10800⟩, ⟨972766800, 7200⟩, ⟨985471200, 10800⟩,
        ⟨1004216400, 7200⟩, ⟨1017525600, 10800⟩, ⟨1035666000, 7200⟩, ⟨1048975200, 10800⟩,
        ⟨1067115600, 7200⟩, ⟨1080424800, 10800⟩, ⟨1099170000, 7200⟩, ⟨1111874400, 10800⟩,
        ⟨1130619600, 7200⟩, ⟨1143324000, 10800⟩, ⟨1162069200, 7200⟩, ⟨1174773600, 10800⟩,
        ⟨1193518800, 7200⟩, ⟨1206828000, 10800⟩, ⟨1224968400, 7200⟩, ⟨1238277600, 10800⟩,
        ⟨1256418000, 7200⟩, ⟨1269727200, 10800⟩, ⟨1288472400, 7200⟩, ⟨1301176800, 10800⟩,
        ⟨1319922000, 7200⟩, ⟨1332626400, 10800⟩, ⟨1351371600, 7200⟩, ⟨1364680800, 10800⟩,
        ⟨1382821200, 7200⟩, ⟨1396130400, 10800⟩, ⟨1414270800, 7200⟩, ⟨1427580000, 10800⟩,
        ⟨1445720400, 7200⟩, ⟨1459029600, 10800⟩, ⟨1477774800, 7200⟩, ⟨1490479200, 10800⟩,
        ⟨1509224400, 7200⟩, ⟨1521928800, 10800⟩, ⟨1540674000, 7200⟩, ⟨1553983200, 10800⟩,
        ⟨1572123600, 7200⟩, ⟨1585432800, 10800⟩, ⟨1603573200, 7200⟩, ⟨1616882400, 10800⟩,
        ⟨1635627600, 7200⟩, ⟨1648332000, 10800⟩, ⟨1667077200, 7200⟩, ⟨1679781600, 10800⟩,
        ⟨1698526800, 7200⟩, ⟨1711836000, 10800⟩, ⟨1729976400, 7200⟩, ⟨1743285600, 10800⟩,
        ⟨1761426000, 7200⟩, ⟨1774735200, 10800⟩, ⟨1792875600, 7200⟩, ⟨1806184800, 10800⟩,
        ⟨1824930000, 7200⟩, ⟨1837634400, 10800⟩, ⟨1856379600, 7200⟩, ⟨1869084000, 10800⟩,
        ⟨1887829200, 7200⟩, ⟨1901138400, 10800⟩, ⟨1919278800, 7200⟩, ⟨1932588000, 10800⟩,
        ⟨1950728400, 7200⟩, ⟨1964037600, 10800⟩, ⟨1982782800, 7200⟩, ⟨1995487200, 10800⟩,
        ⟨2014232400, 7200⟩, ⟨2026936800, 10800⟩, ⟨2045682000, 7200⟩, ⟨2058386400, 10800⟩,
        ⟨2077131600, 7200⟩, ⟨2090440800, 10800⟩, ⟨2108581200, 7200⟩, ⟨2121890400, 10800⟩,
        ⟨2140030800, 7200⟩
      ] ++ Yearly.changes 2038 2099 [⟨3, .last, -7200, 10800⟩, ⟨10, .last, -10800, 7200⟩] }

end FieldFilter.Calendar.History
